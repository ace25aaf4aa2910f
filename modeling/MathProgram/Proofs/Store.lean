import MathProgram.Model

/-!
# Models that were built

A model is built from the empty one by adding variables and constraints and by
replacing its objective and settings.  Every variable gets the number of
variables before it as its id, so that ids are positions.
-/

namespace MathProgram
namespace Model

section Store

variable {α : Type}

/-- The models that the operations of a model lead to. -/
inductive Built : Model α → Prop
  | empty :
      Built .empty
  | addVariable
      {m : Model α}
      (domain : VariableDomain)
      (h : Built m) :
      Built (m.addVariable domain).2
  | addConstraint
      {m : Model α}
      (c : Constraint α)
      (h : Built m) :
      Built (m.addConstraint c).2
  | setObjective
      {m : Model α}
      (o : Objective α)
      (h : Built m) :
      Built (m.setObjective o)
  | setShowLog
      {m : Model α}
      (flag : Bool)
      (h : Built m) :
      Built (m.setShowLog flag)
  | setTimeLimit
      {m : Model α}
      (limit : Duration)
      (h : Built m) :
      Built (m.setTimeLimit limit)

/-- In a built model the variable at a position has that position as its id. -/
theorem Built.map_id_vars
    {m : Model α}
    (h : m.Built) :
    m.vars.map Variable.id = List.range m.vars.length := by
  induction h with
  | empty =>
    rfl
  | @addVariable m domain _ ih =>
    simp [Model.addVariable, VariableDomain.handle, ih, List.range_succ]
  | addConstraint _ _ ih => exact ih
  | setObjective _ _ ih => exact ih
  | setShowLog _ _ ih => exact ih
  | setTimeLimit _ _ ih => exact ih

end Store

end Model
end MathProgram

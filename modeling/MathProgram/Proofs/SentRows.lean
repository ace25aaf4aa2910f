import MathProgram.Proofs.CallProtocol
import MathProgram.Proofs.Feasibility

/-!
# The rows that a run sends

A run that no refusal ends sends the rows of the stored constraints in the order
in which they are stored.  Together they leave the same assignments as the
stored constraints do, provided that no side is quadratic.

A model without variables is refused before any call is made.  Its constraints
are not sent, even if no assignment meets them.

**Results.**
* `calls_of_acceptsAll`: the calls of a run without a refusal.
* `rows_as_written`: comparisons and models reach the solver as written.
* `contradictory_not_sent`: the constraint `1 <= 0` of a model without variables.
-/

namespace MathProgram

section Run

/-- The row that a call hands over, if it hands one over. -/
def Call.sentRow?
    {α : Type} :
    Call α → Option (ScalarConstraint α)
  | addConstraint row => some row
  | _ => none

namespace Model

theorem filterMap_sentRow?_schedule
    {α : Type}
    (m : Model α) :
    (m.schedule ++ [Call.delete]).filterMap Call.sentRow?
      =
    m.constraints.flatMap Constraint.scalarRows := by
  have hvars (vars : List Variable) :
      (vars.map fun v => (.addVariable v : Call α)).filterMap Call.sentRow? = [] := by
    induction vars with
    | nil => rfl
    | cons v vars ih => exact ih
  have hrows (rows : List (ScalarConstraint α)) :
      (rows.map Call.addConstraint).filterMap Call.sentRow? = rows := by
    induction rows with
    | nil => rfl
    | cons row rows ih => exact congrArg (row :: ·) ih
  have hlimit :
      (if m.timeLimit = .zero then ([] : List (Call α))
        else [.setTimeLimit m.timeLimit.toSeconds]).filterMap Call.sentRow? = [] := by
    split <;> rfl
  have hobjective :
      (m.objective.map Call.setObjective).toList.filterMap Call.sentRow? = [] := by
    cases m.objective <;> rfl
  simp only [schedule, loadCalls, openingCalls, closingCalls, List.filterMap_append, hvars, hrows,
    hlimit, hobjective]
  simp [Call.sentRow?, List.filterMap_cons]

/-- A run in which every call was accepted made all calls of the schedule and the deletion. -/
theorem calls_of_acceptsAll
    {α : Type}
    {m : Model α}
    (h : m.vars ≠ [])
    {solver : Solver α}
    {trace : Trace α}
    {made : List (Call α)}
    (hmade : ((m.optimize solver).runFrom trace).2.calls = trace.calls ++ made)
    (haccepts : solver.AcceptsAll trace.calls made) :
    made = m.schedule ++ [Call.delete] := by
  rcases optimize_cases h solver trace with ⟨solution, hrun⟩ | ⟨before, call, cause, hrun⟩
  · have hcalls := hrun.calls
    rw [hmade, List.append_assoc] at hcalls
    exact List.append_cancel_left hcalls
  · have hcalls := hrun.calls
    rw [hmade, List.append_assoc, List.append_assoc] at hcalls
    obtain ⟨reply, hreply⟩ := haccepts before call [.delete] (List.append_cancel_left hcalls)
    rw [hrun.refused] at hreply
    cases hreply

/-- No stored constraint has a quadratic side. -/
def IsLinear
    {α : Type}
    (m : Model α) :
    Prop :=
  ∀ c ∈ m.constraints, c.IsLinear

/--
In a run without a refused call the rows that are sent are those of the stored
constraints in order, and what satisfies all of their linear rows is what
satisfies the stored constraints.
-/
def SendsAsWritten
    (m : Model ℚ)
    (solver : Solver ℚ)
    (trace : Trace ℚ) :
    Prop :=
  ∀ made, ((m.optimize solver).runFrom trace).2.calls = trace.calls ++ made →
    solver.AcceptsAll trace.calls made →
      ∃ parts linear, m.constraints.mapM Constraint.rows = .ok parts ∧
        made.filterMap Call.sentRow? = parts.flatten ∧
        parts.flatten.mapM ScalarConstraint.linearRow = .ok linear ∧
        ∀ x, (∀ row ∈ linear, row.Satisfied x) ↔ ∀ c ∈ m.constraints, c.Holds x

/-- With a variable a model without quadratic constraints is sent as written. -/
theorem sendsAsWritten_of_vars_ne_nil
    {m : Model ℚ}
    (hvars : m.vars ≠ [])
    (hlinear : m.IsLinear)
    (solver : Solver ℚ)
    (trace : Trace ℚ) :
    m.SendsAsWritten solver trace := by
  intro made hmade haccepts
  obtain rfl := calls_of_acceptsAll hvars hmade haccepts
  have hparts : m.constraints.mapM Constraint.rows
      = .ok (m.constraints.map Constraint.scalarRows) := by
    rw [mapM_eq_ok_iff, List.map_map]
    exact List.map_congr_left fun c _ => c.rows_eq
  have hdegree : ∀ row ∈ (m.constraints.map Constraint.scalarRows).flatten, row.degree ≤ 1 := by
    intro row hrow
    obtain ⟨rows, hrows, hmem⟩ := List.mem_flatten.mp hrow
    obtain ⟨c, hc, rfl⟩ := List.mem_map.mp hrows
    exact Constraint.degree_of_mem_scalarRows (hlinear c hc) hmem
  obtain ⟨linear, hrows, hsatisfied⟩ := ScalarConstraint.exists_linearRows hdegree
  refine ⟨_, linear, hparts, ?_, hrows, ?_⟩
  · rw [filterMap_sentRow?_schedule, List.flatMap_def]
  · intro x
    rw [hsatisfied]
    constructor
    · intro hall c hc
      rw [Constraint.holds_iff_rows]
      intro row hrow
      exact hall row (List.mem_flatten.mpr ⟨_, List.mem_map_of_mem hc, hrow⟩)
    · intro hall row hrow
      obtain ⟨rows, hrows, hmem⟩ := List.mem_flatten.mp hrow
      obtain ⟨c, hc, rfl⟩ := List.mem_map.mp hrows
      exact (Constraint.holds_iff_rows c x).mp (hall c hc) row hmem

/--
What is compared is what the solver sees.  A comparison of operands that are not
quadratic gives one row per component, and its linear rows are satisfied exactly
where all components relate as written.  A run without a refusal sends these
rows for all stored constraints of a model that has a variable.
-/
theorem rows_as_written :
    (∀ (a b : Expression ℚ) (sense : Sense) (c : Constraint ℚ),
      a.compare sense b = .ok c → a.IsLinear → b.IsLinear →
        ∃ rows linear, c.rows = .ok rows ∧ rows.length = a.outputCount b ∧
          rows.mapM ScalarConstraint.linearRow = .ok linear ∧
          ∀ x, (∀ row ∈ linear, row.Satisfied x)
            ↔
          List.Forall₂ sense.Holds
            (a.outputs (a.outputCount b) x) (b.outputs (a.outputCount b) x))
      ∧
    (∀ (m : Model ℚ) (solver : Solver ℚ) (trace : Trace ℚ),
      m.vars ≠ [] → m.IsLinear → m.SendsAsWritten solver trace) := by
  constructor
  · intro a b sense c hcompare ha hb
    exact Expression.rows_feasible hcompare ha hb
  · intro m solver trace hvars hlinear
    exact sendsAsWritten_of_vars_ne_nil hvars hlinear solver trace

/-- A solver that accepts every call. -/
def accommodating : Solver ℚ where
  accepts := fun _ _ => .ok ()
  solve := fun _ => .ok { values := .empty, objective := 0, status := .optimal }

theorem acceptsAll_accommodating
    (history calls : List (Call ℚ)) :
    accommodating.AcceptsAll history calls := by
  intro before call after _
  cases call <;> exact ⟨_, rfl⟩

/-- A first variable that is at most one. -/
def unitBound : Constraint ℚ :=
  .scalar ⟨.var (VariableDomain.free.handle 0), .lessEqual, .constant 1⟩

/-- The model of that variable and its bound. -/
def unitBounded : Model ℚ :=
  ((empty.addVariable .free).2.addConstraint unitBound).2

/-- A bound of one variable has one row, and a run that sends it is never refused. -/
theorem rows_as_written_unitBounded :
    (∃ rows linear, unitBound.rows = .ok rows ∧ rows.length = 1 ∧
      rows.mapM ScalarConstraint.linearRow = .ok linear ∧
      ∀ x, (∀ row ∈ linear, row.Satisfied x) ↔ List.Forall₂ (· ≤ ·) [x 0] [1])
      ∧
    unitBounded.SendsAsWritten accommodating .empty ∧
    ∃ made, ((unitBounded.optimize accommodating).runFrom .empty).2.calls = [] ++ made ∧
      accommodating.AcceptsAll [] made := by
  refine ⟨?_, ?_, _, rfl, acceptsAll_accommodating [] _⟩
  · exact rows_as_written.1 (.scalar (.var (VariableDomain.free.handle 0)))
      (.scalar (.constant 1)) .lessEqual unitBound rfl (le_refl 1) (Nat.zero_le 1)
  · apply rows_as_written.2
    · simp [unitBounded, addConstraint, addVariable]
    · intro c hc
      obtain rfl := List.mem_singleton.mp hc
      exact le_refl 1

/-- A model without variables that no assignment satisfies. -/
def contradictory : Model ℚ :=
  (empty.addConstraint (.scalar ⟨.constant 1, .lessEqual, .constant 0⟩)).2

/-- Without a variable a constraint that nothing satisfies is not sent. -/
theorem contradictory_not_sent :
    contradictory.IsLinear ∧
      ∀ solver : Solver ℚ, ¬ contradictory.SendsAsWritten solver .empty := by
  refine ⟨?_, ?_⟩
  · intro c hc
    obtain rfl := List.mem_singleton.mp hc
    exact Nat.zero_le 1
  · intro solver hsends
    have hcalls : ((contradictory.optimize solver).runFrom .empty).2.calls = [] ++ [] := by
      rw [optimize_of_vars_eq_nil rfl]
      rfl
    obtain ⟨parts, linear, _, hsent, hlinear, hfeasible⟩ :=
      hsends [] hcalls (Solver.acceptsAll_nil solver [])
    have hflat : parts.flatten = [] := hsent.symm
    rw [hflat] at hlinear
    obtain rfl : [] = linear := Except.ok.inj hlinear
    have hholds := (hfeasible fun _ => 0).mp (by simp) _ (List.mem_singleton_self _)
    have hle : (1 : ℚ) ≤ 0 := hholds
    exact absurd hle (by norm_num)

end Model

end Run

end MathProgram

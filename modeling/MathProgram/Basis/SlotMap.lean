import MathProgram.Basis
import MathProgram.ExprError

/-!
# Looking slots up in another basis

The slot map of a basis into another one sends every slot to the first slot of
the target with the same id.  It exists exactly when the target has every id;
otherwise the first variable without a slot is reported.
-/

namespace MathProgram
namespace Basis

/-- The slot of a variable in a basis, or the variable that is missing from it. -/
def slotOf
    (target : Basis)
    (v : Variable) :
    Except ExprError Nat :=
  match target.position? v.id with
  | some slot => .ok slot
  | none => .error (.missingVariable v.id)

/-- For every slot of `source`, the first slot of `target` with the same id. -/
def slotMap
    (source target : Basis) :
    Except ExprError (List Nat) :=
  source.mapM target.slotOf

end Basis
end MathProgram

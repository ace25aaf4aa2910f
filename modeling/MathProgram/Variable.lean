/-!
# Decision variables

A variable is a handle: an id, two bounds and a kind.  Handles are compared by
their id alone, because the same id may be handed out with different bounds by
different models and the algebra of expressions must not look at the bounds.
-/

namespace MathProgram

/-- The set of values a variable ranges over. -/
inductive VarKind where
  | continuous
  | integer
  | binary
  deriving DecidableEq, Repr

namespace VarKind

/-- The name of a kind. -/
def name : VarKind → String
  | continuous => "Continuous"
  | integer => "Integer"
  | binary => "Binary"

/-- Whether a variable of this kind only takes whole values. -/
def isWhole : VarKind → Bool
  | continuous => false
  | integer => true
  | binary => true

end VarKind

/-- The handle of a decision variable. -/
structure Variable where
  id : Nat
  lower : Float
  upper : Float
  kind : VarKind

namespace Variable

/-- Two handles denote the same variable when their ids agree. -/
instance : BEq Variable :=
  ⟨fun v w => v.id == w.id⟩

/-- The hash of a handle agrees with its equality: it looks at the id alone. -/
instance : Hashable Variable :=
  ⟨fun v => hash v.id⟩

end Variable

end MathProgram

import MathProgram.Expression

/-!
# Constraints

A constraint compares two expressions of one shape: two scalar ones, or two
vectors of one length.  A vector constraint stands for one scalar constraint per
component.

**Comparison.**  `Expression.compare` accepts the same operands as addition; a
constant compared with a vector is repeated in every component.

**Rows.**  The row of a scalar constraint moves everything to the left except
for the constant.  It exists unless one side is quadratic, and has one
coefficient per id.
-/

namespace MathProgram

/-- How the left side of a constraint relates to the right one. -/
inductive Sense where
  | lessEqual
  | equal
  | greaterEqual
  deriving DecidableEq, Repr

/-- The relation sign of a sense. -/
def Sense.symbol : Sense → String
  | lessEqual => "<="
  | equal => "=="
  | greaterEqual => ">="

/-- A comparison of two scalar expressions. -/
structure ScalarConstraint (α : Type) where
  lhs : ScalarExpr α
  sense : Sense
  rhs : ScalarExpr α

/-- A comparison of two vector expressions of one length. -/
structure VectorConstraint (α : Type) where
  lhs : VectorExpr α
  sense : Sense
  rhs : VectorExpr α
  sameLength : lhs.length = rhs.length

/-- Coefficients by id on the left of a sense and a number on the right. -/
structure LinearRow (α : Type) where
  ids : List Nat
  coeffs : List α
  sense : Sense
  rhs : α

namespace ScalarConstraint

section ScalarConstraint

variable {α : Type}

/-- The higher degree of the two sides. -/
def degree
    (c : ScalarConstraint α) :
    Nat :=
  max c.lhs.degree c.rhs.degree

/-- The kinds of the two sides around the relation sign. -/
def summary
    (c : ScalarConstraint α) :
    String :=
  c.lhs.kind.name ++ " " ++ c.sense.symbol ++ " " ++ c.rhs.kind.name

/-- The row of a constraint, unless one side is quadratic. -/
def linearRow
    [Zero α]
    [One α]
    [Add α]
    [Mul α]
    [Neg α]
    (c : ScalarConstraint α) :
    Except ExprError (LinearRow α) :=
  match (c.lhs.sub c.rhs).toAffine? with
  | some difference =>
    let row := difference.folded
    .ok
      { ids := row.vars.slotIds
        coeffs := row.coeffs
        sense := c.sense
        rhs := -row.constant }
  | none => .error (.unsupportedOperands .linearRow c.lhs.kind c.rhs.kind)

/-- Equality of both sides and the sense. -/
instance
    [BEq α] :
    BEq (ScalarConstraint α) :=
  ⟨fun a b => a.lhs == b.lhs && a.sense == b.sense && a.rhs == b.rhs⟩

end ScalarConstraint

end ScalarConstraint

namespace VectorConstraint

section VectorConstraint

variable {α : Type}

/-- A comparison of two vectors, provided that they have one length. -/
def ofSides
    (lhs : VectorExpr α)
    (sense : Sense)
    (rhs : VectorExpr α) :
    Except ExprError (VectorConstraint α) :=
  if h : lhs.length = rhs.length then
    .ok { lhs, sense, rhs, sameLength := h }
  else
    .error (.dimensionMismatch .comparedLengths lhs.length rhs.length)

/-- The number of components. -/
def length
    (c : VectorConstraint α) :
    Nat :=
  c.lhs.length

/-- The comparison of one component. -/
def component
    (c : VectorConstraint α)
    (i : Nat) :
    Except ExprError (ScalarConstraint α) := do
  let lhs ← c.lhs.component i
  let rhs ← c.rhs.component i
  return { lhs, sense := c.sense, rhs }

/-- The comparisons of all components, in order. -/
def components
    (c : VectorConstraint α) :
    Except ExprError (List (ScalarConstraint α)) :=
  (List.range c.length).mapM c.component

/-- Equality of both sides and the sense. -/
instance
    [BEq α] :
    BEq (VectorConstraint α) :=
  ⟨fun a b => a.lhs == b.lhs && a.sense == b.sense && a.rhs == b.rhs⟩

end VectorConstraint

end VectorConstraint

/-- A comparison of two expressions of one shape. -/
inductive Constraint (α : Type) where
  | scalar (c : ScalarConstraint α)
  | vector (c : VectorConstraint α)

namespace Constraint

section Constraint

variable {α : Type}

/-- The sense of a constraint. -/
def sense : Constraint α → Sense
  | scalar c => c.sense
  | vector c => c.sense

/-- The scalar constraints that a constraint stands for, in order. -/
def rows : Constraint α → Except ExprError (List (ScalarConstraint α))
  | scalar c => .ok [c]
  | vector c => c.components

/-- Equality of shapes, sides and senses. -/
instance
    [BEq α] :
    BEq (Constraint α) :=
  ⟨fun
    | scalar a, scalar b => a == b
    | vector a, vector b => a == b
    | _, _ => false⟩

end Constraint

end Constraint

namespace Expression

section Comparison

variable {α : Type}

/-- The comparison of two expressions, where it is defined. -/
def compare
    (lhs : Expression α)
    (sense : Sense)
    (rhs : Expression α) :
    Except ExprError (Constraint α) :=
  match lhs, rhs with
  | scalar l, scalar r => .ok (.scalar { lhs := l, sense, rhs := r })
  | vector l, vector r => (VectorConstraint.ofSides l sense r).map .vector
  | vector l, scalar (.constant k) =>
    (VectorConstraint.ofSides l sense (.broadcast k l.length)).map .vector
  | scalar (.constant k), vector r =>
    (VectorConstraint.ofSides (.broadcast k r.length) sense r).map .vector
  | l, r => .error (.unsupportedOperands .comparison l.kind r.kind)

end Comparison

end Expression

/-- Whether two comparisons came out alike: equal constraints, or the same failure. -/
def sameOutcome
    {α : Type}
    [BEq α] :
    Except ExprError (Constraint α) → Except ExprError (Constraint α) → Bool
  | .ok a, .ok b => a == b
  | .error a, .error b => a == b
  | _, _ => false

end MathProgram

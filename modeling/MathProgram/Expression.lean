import MathProgram.Expression.Vector

/-!
# Expressions of either shape

Scalar expressions are added to scalar ones and vectors to vectors of the same
length.  Across the two shapes only a constant is added to a vector: it is
added to every component.  Every other pair is refused, naming both kinds.
-/

namespace MathProgram

/-- A scalar or a vector expression. -/
inductive Expression (α : Type) where
  | scalar (e : ScalarExpr α)
  | vector (e : VectorExpr α)

namespace Expression

section Expression

variable {α : Type}

/-- The kind of an expression. -/
def kind : Expression α → ExprKind
  | scalar e => e.kind
  | vector e => e.kind

/-- The variables of an expression, slot by slot. -/
def vars : Expression α → Basis
  | scalar e => e.vars
  | vector e => e.basis

/-- The distinct ids, in order of first occurrence. -/
def ids : Expression α → List Nat
  | scalar e => e.ids
  | vector e => e.ids

/-- The sum of two expressions, where it is defined. -/
def add
    [Zero α]
    [One α]
    [Add α] :
    Expression α → Expression α → Except ExprError (Expression α)
  | scalar a, scalar b => .ok (scalar (a.add b))
  | vector a, vector b => (a.add b).map vector
  | vector a, scalar (.constant k) => .ok (vector (a.shift k))
  | scalar (.constant k), vector b => .ok (vector (b.shift k))
  | a, b => .error (.unsupportedOperands .plus a.kind b.kind)

/-- Multiply an expression by a factor. -/
def scale
    [Zero α]
    [One α]
    [Mul α]
    (e : Expression α)
    (factor : α) :
    Expression α :=
  match e with
  | scalar e => scalar (e.scale factor)
  | vector e => vector (e.scale factor)

/-- Equality of shapes, kinds and parts; variables are compared by their ids. -/
instance
    [BEq α] :
    BEq (Expression α) :=
  ⟨fun
    | scalar a, scalar b => a == b
    | vector a, vector b => a == b
    | _, _ => false⟩

end Expression

end Expression

end MathProgram

import MathProgram.Expression.Quadratic

/-!
# Scalar expressions

A scalar expression is a constant, a variable, an affine or a quadratic
expression.  Scalar expressions can always be added: two constants give a
constant, a quadratic operand gives a quadratic expression, and everything else
gives an affine one.

Subtraction adds the operand multiplied by minus one.
-/

namespace MathProgram

/-- An expression with one value. -/
inductive ScalarExpr (α : Type) where
  | constant (k : α)
  | var (v : Variable)
  | affine (e : Affine α)
  | quadratic (e : Quadratic α)

namespace ScalarExpr

section ScalarExpr

variable {α : Type}

/-- The constant zero. -/
instance
    [Zero α] :
    Inhabited (ScalarExpr α) :=
  ⟨constant 0⟩

/-- The kind of an expression. -/
def kind : ScalarExpr α → ExprKind
  | constant _ => .constant
  | var _ => .var
  | affine _ => .affine
  | quadratic _ => .quadratic

/-- The highest number of variables that are multiplied with each other. -/
def degree : ScalarExpr α → Nat
  | constant _ => 0
  | var _ => 1
  | affine _ => 1
  | quadratic _ => 2

/-- The variables of an expression, slot by slot. -/
def vars : ScalarExpr α → Basis
  | constant _ => []
  | var v => [v]
  | affine e => e.vars
  | quadratic e => e.vars

/-- The distinct ids, in order of first occurrence. -/
def ids : ScalarExpr α → List Nat
  | constant _ => []
  | var v => [v.id]
  | affine e => e.ids
  | quadratic e => e.ids

/-- The number of distinct variables. -/
def numVars : ScalarExpr α → Nat
  | constant _ => 0
  | var _ => 1
  | affine e => e.numVars
  | quadratic e => e.numVars

/--
The coefficients over the distinct ids: one per id up to degree one, and the
products of two ids for a quadratic expression.
-/
def coeffs
    [Zero α]
    [One α]
    [Add α] :
    ScalarExpr α → List α
  | constant _ => []
  | var _ => [1]
  | affine e => e.folded.coeffs
  | quadratic e => e.coeffs

/-- The constant term. -/
def constantTerm
    [Zero α] :
    ScalarExpr α → α
  | constant k => k
  | var _ => 0
  | affine e => e.constant
  | quadratic e => e.constant

/-- The expression as an affine one, unless it is quadratic. -/
def toAffine?
    [Zero α]
    [One α] :
    ScalarExpr α → Option (Affine α)
  | constant k => some (.ofConstant k)
  | var v => some (.ofVariable v)
  | affine e => some e
  | quadratic _ => none

/-- The expression as a quadratic one, with a zero matrix for lower degrees. -/
def toQuadratic
    [Zero α]
    [One α] :
    ScalarExpr α → Quadratic α
  | constant k => .ofAffine (.ofConstant k)
  | var v => .ofAffine (.ofVariable v)
  | affine e => .ofAffine e
  | quadratic e => e

/-- The sum of two expressions. -/
def add
    [Zero α]
    [One α]
    [Add α] :
    ScalarExpr α → ScalarExpr α → ScalarExpr α
  | constant a, constant b => constant (a + b)
  | a, b =>
    match a.toAffine?, b.toAffine? with
    | some x, some y => affine (x.add y)
    | _, _ => quadratic (a.toQuadratic.add b.toQuadratic)

/-- Multiply an expression by a factor; a variable becomes an affine expression. -/
def scale
    [Zero α]
    [One α]
    [Mul α]
    (e : ScalarExpr α)
    (factor : α) :
    ScalarExpr α :=
  match e with
  | constant k => constant (k * factor)
  | var v => affine ((Affine.ofVariable v).scale factor)
  | affine e => affine (e.scale factor)
  | quadratic e => quadratic (e.scale factor)

/-- The expression multiplied by minus one. -/
def neg
    [Zero α]
    [One α]
    [Mul α]
    [Neg α]
    (e : ScalarExpr α) :
    ScalarExpr α :=
  e.scale (-1)

/-- The left expression plus the right one multiplied by minus one. -/
def sub
    [Zero α]
    [One α]
    [Add α]
    [Mul α]
    [Neg α]
    (a b : ScalarExpr α) :
    ScalarExpr α :=
  a.add (b.scale (-1))

instance
    [Zero α]
    [One α]
    [Add α] :
    Add (ScalarExpr α) :=
  ⟨add⟩

instance
    [Zero α]
    [One α]
    [Mul α]
    [Neg α] :
    Neg (ScalarExpr α) :=
  ⟨neg⟩

instance
    [Zero α]
    [One α]
    [Add α]
    [Mul α]
    [Neg α] :
    Sub (ScalarExpr α) :=
  ⟨sub⟩

instance
    [Zero α]
    [One α]
    [Mul α] :
    HMul (ScalarExpr α) α (ScalarExpr α) :=
  ⟨scale⟩

instance
    [Zero α]
    [One α]
    [Mul α] :
    HMul α (ScalarExpr α) (ScalarExpr α) :=
  ⟨fun factor e => e.scale factor⟩

/-- Equality of kinds and parts; variables are compared by their ids. -/
instance
    [BEq α] :
    BEq (ScalarExpr α) :=
  ⟨fun
    | constant a, constant b => a == b
    | var a, var b => a == b
    | affine a, affine b => a == b
    | quadratic a, quadratic b => a == b
    | _, _ => false⟩

end ScalarExpr

end ScalarExpr

end MathProgram

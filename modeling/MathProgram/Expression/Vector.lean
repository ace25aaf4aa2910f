import MathProgram.Expression.AffineVector
import MathProgram.Expression.Scalar

/-!
# Vector expressions

A vector expression is a list of constants, a list of variables or an affine
vector.  Two vectors can be added when they have one length: two constant
vectors give a constant vector, everything else gives an affine vector.
-/

namespace MathProgram

/-- An expression with one value per component. -/
inductive VectorExpr (α : Type) where
  | constant (values : List α)
  | vars (slots : Basis)
  | affine (e : AffineVector α)

namespace VectorExpr

section VectorExpr

variable {α : Type}

/-- The same constant in every component. -/
def broadcast
    (k : α)
    (length : Nat) :
    VectorExpr α :=
  constant (List.replicate length k)

/-- The kind of an expression. -/
def kind : VectorExpr α → ExprKind
  | constant _ => .constantVector
  | vars _ => .varVector
  | affine _ => .affineVector

/-- The number of components. -/
def length : VectorExpr α → Nat
  | constant values => values.length
  | vars slots => slots.length
  | affine e => e.length

@[simp] theorem length_broadcast
    (k : α)
    (n : Nat) :
    (broadcast k n).length = n := by
  exact List.length_replicate

/-- The variables of an expression, slot by slot. -/
def basis : VectorExpr α → Basis
  | constant _ => []
  | vars slots => slots
  | affine e => e.vars

/-- The distinct ids, in order of first occurrence. -/
def ids : VectorExpr α → List Nat
  | constant _ => []
  | vars slots => slots.ids
  | affine e => e.ids

/-- The number of distinct variables. -/
def numVars
    (e : VectorExpr α) :
    Nat :=
  e.ids.length

/-- The expression as an affine vector. -/
def toAffine
    [Zero α]
    [One α] :
    VectorExpr α → AffineVector α
  | constant values => .ofConstants values
  | vars slots => .ofBasis slots
  | affine e => e

/-- The sum of two expressions, provided that they have one length. -/
def add
    [Zero α]
    [One α]
    [Add α]
    (a b : VectorExpr α) :
    Except ExprError (VectorExpr α) :=
  if a.length = b.length then
    match a, b with
    | constant x, constant y => .ok (constant (List.zipWith (· + ·) x y))
    | a, b => (a.toAffine.add b.toAffine).map affine
  else
    .error (.dimensionMismatch .addedLengths a.length b.length)

/-- Add one number to every component. -/
def shift
    [Zero α]
    [One α]
    [Add α]
    (e : VectorExpr α)
    (k : α) :
    VectorExpr α :=
  match e with
  | constant values => constant (values.map (· + k))
  | e => affine (e.toAffine.shift k)

/-- Multiply every component by a factor; variables become an affine vector. -/
def scale
    [Zero α]
    [One α]
    [Mul α]
    (e : VectorExpr α)
    (factor : α) :
    VectorExpr α :=
  match e with
  | constant values => constant (values.map (· * factor))
  | vars slots => affine ((AffineVector.ofBasis slots).scale factor)
  | affine e => affine (e.scale factor)

/-- One component. -/
def component
    (e : VectorExpr α)
    (i : Nat) :
    Except ExprError (ScalarExpr α) :=
  match e with
  | constant values =>
    match values[i]? with
    | some k => .ok (.constant k)
    | none => .error (.dimensionMismatch .rowIndex values.length i)
  | vars slots =>
    match slots[i]? with
    | some v => .ok (.var v)
    | none => .error (.dimensionMismatch .rowIndex slots.length i)
  | affine e => (e.component i).map .affine

/-- Equality of kinds and parts; variables are compared by their ids. -/
instance
    [BEq α] :
    BEq (VectorExpr α) :=
  ⟨fun
    | constant a, constant b => a == b
    | vars a, vars b => a == b
    | affine a, affine b => a == b
    | _, _ => false⟩

end VectorExpr

end VectorExpr

end MathProgram

import MathProgram.Expression.Affine

/-!
# Quadratic expressions

A quadratic expression has a square matrix over the slots of its basis, an
affine part over the same basis, and nothing else.  The matrix need not be
symmetric: the entries at (i, j) and (j, i) count together.

Addition and change of basis follow the rules of affine expressions, with the
matrix moved along both axes.
-/

namespace MathProgram

/-- Weighted products of two variables, a weighted sum of variables and a constant. -/
structure Quadratic (α : Type) where
  vars : Basis
  quad : DenseMatrix α
  linear : List α
  constant : α
  quad_rows : quad.rows.length = vars.length
  quad_cols : quad.cols = vars.length
  length_linear : linear.length = vars.length

namespace Quadratic

section Quadratic

variable {α : Type}

/-- An expression from its parts, provided that all of them have one place per variable. -/
def ofParts
    (quad : DenseMatrix α)
    (linear : List α)
    (constant : α)
    (vars : Basis) :
    Except ExprError (Quadratic α) :=
  if hrows : quad.rows.length = vars.length then
    if hcols : quad.cols = vars.length then
      if hlinear : linear.length = vars.length then
        .ok
          { vars, quad, linear, constant
            quad_rows := hrows
            quad_cols := hcols
            length_linear := hlinear }
      else
        .error (.dimensionMismatch .linearPartOfVariables vars.length linear.length)
    else
      .error (.dimensionMismatch .quadColumnsOfVariables vars.length quad.cols)
  else
    .error (.dimensionMismatch .quadRowsOfVariables vars.length quad.rows.length)

/-- An expression without linear part and constant. -/
def ofQuad
    [Zero α]
    (quad : DenseMatrix α)
    (vars : Basis) :
    Except ExprError (Quadratic α) :=
  ofParts quad (List.replicate vars.length 0) 0 vars

/-- An affine expression as a quadratic one with a zero matrix. -/
def ofAffine
    [Zero α]
    (e : Affine α) :
    Quadratic α where
  vars := e.vars
  quad := .zeros e.vars.length e.vars.length
  linear := e.coeffs
  constant := e.constant
  quad_rows := by simp [DenseMatrix.zeros]
  quad_cols := rfl
  length_linear := e.length_coeffs

/-- The linear part and the constant. -/
def affinePart
    (e : Quadratic α) :
    Affine α where
  vars := e.vars
  coeffs := e.linear
  constant := e.constant
  length_coeffs := e.length_linear

/-- The distinct ids, in order of first occurrence. -/
def ids
    (e : Quadratic α) :
    List Nat :=
  e.vars.ids

/-- The number of distinct variables. -/
def numVars
    (e : Quadratic α) :
    Nat :=
  e.ids.length

/-- Move an expression to a basis along a slot list. -/
def remap
    [Zero α]
    [Add α]
    (e : Quadratic α)
    (target : Basis)
    (slots : List Nat) :
    Quadratic α where
  vars := target
  quad := remapSquare slots target.length e.quad
  linear := remapVector slots target.length e.linear
  constant := e.constant
  quad_rows := length_rows_remapSquare slots target.length e.quad
  quad_cols := rfl
  length_linear := length_remapVector slots target.length e.linear

/-- Move an expression to a basis that has all of its ids. -/
def reindex
    [Zero α]
    [Add α]
    (e : Quadratic α)
    (target : Basis) :
    Except ExprError (Quadratic α) :=
  (e.vars.slotMap target).map (e.remap target)

/-- The same expression with one slot per id. -/
def folded
    [Zero α]
    [Add α]
    (e : Quadratic α) :
    Quadratic α :=
  e.remap e.vars.fold.1 e.vars.fold.2

/--
The coefficients of the products of two distinct ids, row by row over the upper
triangle of the folded matrix: first the square of an id, then its products with
later ids, for which both entries of the matrix count.
-/
def coeffs
    [Zero α]
    [Add α]
    (e : Quadratic α) :
    List α :=
  let q := e.folded.quad
  let n := q.rows.length
  (List.range n).flatMap fun i =>
    q.entry i i
      :: (List.range' (i + 1) (n - (i + 1))).map fun j => q.entry i j + q.entry j i

/-- Add the entries of two expressions slot by slot, over the basis of the left one. -/
def addSlots
    [Add α]
    (a b : Quadratic α)
    (sameLength : a.vars.length = b.vars.length) :
    Quadratic α where
  vars := a.vars
  quad := a.quad.add b.quad (by rw [a.quad_cols, b.quad_cols, sameLength])
  linear := List.zipWith (· + ·) a.linear b.linear
  constant := a.constant + b.constant
  quad_rows := by
    simp [a.quad_rows, b.quad_rows, sameLength]
  quad_cols := a.quad_cols
  length_linear := by
    simp [a.length_linear, b.length_linear, sameLength]

/-- The sum of two expressions. -/
def add
    [Zero α]
    [Add α]
    (a b : Quadratic α) :
    Quadratic α :=
  if h : a.vars.slotIds = b.vars.slotIds then
    a.addSlots b (by simpa [Basis.slotIds] using congrArg List.length h)
  else
    let union := a.vars.union b.vars
    (a.remap union.basis union.leftSlots).addSlots (b.remap union.basis union.rightSlots) rfl

/-- The sum of a quadratic and an affine expression. -/
def addAffine
    [Zero α]
    [Add α]
    (a : Quadratic α)
    (b : Affine α) :
    Quadratic α :=
  a.add (ofAffine b)

/-- Multiply every entry and the constant by a factor from the right. -/
def scale
    [Mul α]
    (e : Quadratic α)
    (factor : α) :
    Quadratic α where
  vars := e.vars
  quad := e.quad.scale factor
  linear := e.linear.map (· * factor)
  constant := e.constant * factor
  quad_rows := by
    simp [e.quad_rows]
  quad_cols := e.quad_cols
  length_linear := by
    simp [e.length_linear]

/-- Equality of ids, entries and constants. -/
instance
    [BEq α] :
    BEq (Quadratic α) :=
  ⟨fun a b =>
    a.vars == b.vars && a.quad == b.quad && a.linear == b.linear && a.constant == b.constant⟩

end Quadratic

end Quadratic

end MathProgram

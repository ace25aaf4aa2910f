import MathProgram.Expression.Affine

/-!
# Vectors of affine expressions

An affine vector holds several affine expressions over one basis: row `i` of
its matrix has the coefficients of component `i`, and the offset has its
constant.  Addition and change of basis follow the rules of affine expressions
in every component at once.
-/

namespace MathProgram

/-- A matrix applied to the variables of a basis, plus an offset. -/
structure AffineVector (α : Type) where
  vars : Basis
  matrix : DenseMatrix α
  offset : List α
  matrix_cols : matrix.cols = vars.length
  matrix_rows : matrix.rows.length = offset.length

namespace AffineVector

section AffineVector

variable {α : Type}

/-- A vector from its parts, given one column per variable and one row per offset. -/
def ofParts
    (matrix : DenseMatrix α)
    (vars : Basis)
    (offset : List α) :
    Except ExprError (AffineVector α) :=
  if hcols : matrix.cols = vars.length then
    if hrows : matrix.rows.length = offset.length then
      .ok { vars, matrix, offset, matrix_cols := hcols, matrix_rows := hrows }
    else
      .error (.dimensionMismatch .rowsOfOffset offset.length matrix.rows.length)
  else
    .error (.dimensionMismatch .columnsOfVariables vars.length matrix.cols)

/-- A constant vector, over the empty basis. -/
def ofConstants
    [Zero α]
    (offset : List α) :
    AffineVector α where
  vars := []
  matrix := .zeros offset.length 0
  offset := offset
  matrix_cols := rfl
  matrix_rows := by simp [DenseMatrix.zeros]

/-- The vector of the variables of a basis. -/
def ofBasis
    [Zero α]
    [One α]
    (vars : Basis) :
    AffineVector α where
  vars := vars
  matrix := .identity vars.length
  offset := List.replicate vars.length 0
  matrix_cols := rfl
  matrix_rows := by simp [DenseMatrix.identity]

/-- The number of components. -/
def length
    (e : AffineVector α) :
    Nat :=
  e.offset.length

/-- The distinct ids, in order of first occurrence. -/
def ids
    (e : AffineVector α) :
    List Nat :=
  e.vars.ids

/-- One component. -/
def component
    (e : AffineVector α)
    (i : Nat) :
    Except ExprError (Affine α) :=
  if h : i < e.offset.length then
    have hi : i < e.matrix.rows.length := by
      rw [e.matrix_rows]
      exact h
    .ok
      { vars := e.vars
        coeffs := e.matrix.rows[i]
        constant := e.offset[i]
        length_coeffs := by
          rw [e.matrix.width _ (List.getElem_mem hi), e.matrix_cols] }
  else
    .error (.dimensionMismatch .rowIndex e.length i)

/-- Move a vector to a basis along a slot list. -/
def remap
    [Zero α]
    [Add α]
    (e : AffineVector α)
    (target : Basis)
    (slots : List Nat) :
    AffineVector α where
  vars := target
  matrix := remapColumns slots target.length e.matrix
  offset := e.offset
  matrix_cols := rfl
  matrix_rows := by
    simp [e.matrix_rows]

/-- Move a vector to a basis that has all of its ids. -/
def reindex
    [Zero α]
    [Add α]
    (e : AffineVector α)
    (target : Basis) :
    Except ExprError (AffineVector α) :=
  (e.vars.slotMap target).map (e.remap target)

/-- Add two vectors slot by slot, over the basis of the left one and the components both have. -/
def addSlots
    [Add α]
    (a b : AffineVector α)
    (sameBasis : a.vars.length = b.vars.length) :
    AffineVector α where
  vars := a.vars
  matrix := a.matrix.add b.matrix (by rw [a.matrix_cols, b.matrix_cols, sameBasis])
  offset := List.zipWith (· + ·) a.offset b.offset
  matrix_cols := a.matrix_cols
  matrix_rows := by
    simp [a.matrix_rows, b.matrix_rows]

/-- The sum of two vectors, provided that they have one length. -/
def add
    [Zero α]
    [Add α]
    (a b : AffineVector α) :
    Except ExprError (AffineVector α) :=
  if a.length = b.length then
    if h : a.vars.slotIds = b.vars.slotIds then
      .ok (a.addSlots b (by simpa [Basis.slotIds] using congrArg List.length h))
    else
      let union := a.vars.union b.vars
      .ok
        ((a.remap union.basis union.leftSlots).addSlots
          (b.remap union.basis union.rightSlots) rfl)
  else
    .error (.dimensionMismatch .addedLengths a.length b.length)

/-- Multiply every entry and every offset by a factor from the right. -/
def scale
    [Mul α]
    (e : AffineVector α)
    (factor : α) :
    AffineVector α where
  vars := e.vars
  matrix := e.matrix.scale factor
  offset := e.offset.map (· * factor)
  matrix_cols := e.matrix_cols
  matrix_rows := by
    simp [e.matrix_rows]

/-- Add one number to every component. -/
def shift
    [Add α]
    (e : AffineVector α)
    (k : α) :
    AffineVector α where
  vars := e.vars
  matrix := e.matrix
  offset := e.offset.map (· + k)
  matrix_cols := e.matrix_cols
  matrix_rows := by
    simp [e.matrix_rows]

/-- Equality of ids, entries and offsets. -/
instance
    [BEq α] :
    BEq (AffineVector α) :=
  ⟨fun a b => a.vars == b.vars && a.matrix == b.matrix && a.offset == b.offset⟩

end AffineVector

end AffineVector

end MathProgram

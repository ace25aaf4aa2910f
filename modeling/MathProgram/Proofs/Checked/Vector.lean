import MathProgram.Proofs.Checked.Scalar
import MathProgram.Proofs.Rows

/-!
# Checked algebra of vectors and constraints

Raw vectors, expressions and constraints have the parts of those of the library
without any promise: the matrix of a raw affine vector may have any shape, and
the sides of a raw vector constraint may differ in length.

**Results.**
* `AffineVector.raw_add`, `AffineVector.raw_component`: no check of a sum or of
  a component fails.
* `Expression.raw_add`, `Expression.raw_compare`: the same for either shape.
* `Constraint.raw_rows`, `ScalarConstraint.raw_linearRow`: the same for rows.
-/

namespace MathProgram

/-- The parts of an affine vector. -/
structure RawAffineVector (α : Type) where
  vars : Basis
  matrix : DenseMatrix α
  offset : List α

/-- The matrix has one column per variable and one row per offset. -/
structure RawAffineVector.WellShaped
    {α : Type}
    (e : RawAffineVector α) :
    Prop where
  matrix_cols : e.matrix.cols = e.vars.length
  matrix_rows : e.matrix.rows.length = e.offset.length

/-- The parts of a vector. -/
def AffineVector.raw
    {α : Type}
    (e : AffineVector α) :
    RawAffineVector α where
  vars := e.vars
  matrix := e.matrix
  offset := e.offset

namespace RawAffineVector

section Operations

variable {α : Type}

/-- Refuse parts that do not fit. -/
def check
    (e : RawAffineVector α) :
    Checked Unit :=
  if e.matrix.cols ≠ e.vars.length then
    .error (.refused (.dimensionMismatch .columnsOfVariables e.vars.length e.matrix.cols))
  else if e.matrix.rows.length ≠ e.offset.length then
    .error (.refused (.dimensionMismatch .rowsOfOffset e.offset.length e.matrix.rows.length))
  else
    .ok ()

/-- A vector from parts that the caller supplies. -/
def make
    (matrix : DenseMatrix α)
    (vars : Basis)
    (offset : List α) :
    Checked (RawAffineVector α) := do
  let e : RawAffineVector α := { vars, matrix, offset }
  e.check
  return e

/-- A vector from parts that are asserted to fit. -/
def assemble
    (vars : Basis)
    (matrix : DenseMatrix α)
    (offset : List α) :
    Checked (RawAffineVector α) := do
  Checked.require (matrix.rows.length == offset.length && matrix.cols == vars.length)
  return { vars, matrix, offset }

/-- One component. -/
def component
    (e : RawAffineVector α)
    (i : Nat) :
    Checked (RawAffine α) :=
  if e.offset.length ≤ i then
    .error (.refused (.dimensionMismatch .rowIndex e.offset.length i))
  else do
    let coeffs ← Checked.row e.matrix i
    RawAffine.assemble e.vars coeffs (← Checked.index e.offset i)

/-- The sum of two vectors. -/
def add
    [Zero α]
    [Add α]
    (a b : RawAffineVector α) :
    Checked (RawAffineVector α) :=
  if a.offset.length ≠ b.offset.length then
    .error (.refused (.dimensionMismatch .addedLengths a.offset.length b.offset.length))
  else if a.vars.slotIds = b.vars.slotIds then do
    let matrix ← Checked.addMatrices a.matrix b.matrix
    let offset ← Checked.addVectors a.offset b.offset
    return { vars := a.vars, matrix, offset }
  else do
    let union := a.vars.union b.vars
    let left ← Checked.moveColumns union.leftSlots union.basis.length a.matrix
    let right ← Checked.moveColumns union.rightSlots union.basis.length b.matrix
    let matrix ← Checked.addMatrices left right
    let offset ← Checked.addVectors a.offset b.offset
    return { vars := union.basis, matrix, offset }

/-- Multiply every entry and every offset by a factor. -/
def scale
    [Mul α]
    (e : RawAffineVector α)
    (factor : α) :
    RawAffineVector α where
  vars := e.vars
  matrix := e.matrix.scale factor
  offset := e.offset.map (· * factor)

/-- Move a vector to a basis that has all of its ids. -/
def reindex
    [Zero α]
    [Add α]
    (e : RawAffineVector α)
    (target : Basis) :
    Checked (RawAffineVector α) := do
  let slots ← Checked.ofResult (e.vars.slotMap target)
  let matrix ← Checked.moveColumns slots target.length e.matrix
  return { vars := target, matrix, offset := e.offset }

theorem assemble_of_shape
    {vars : Basis}
    {matrix : DenseMatrix α}
    {offset : List α}
    (hrows : matrix.rows.length = offset.length)
    (hcols : matrix.cols = vars.length) :
    assemble vars matrix offset = .ok { vars, matrix, offset } := by
  simp [assemble, Checked.require, hrows, hcols, bind, Except.bind, pure, Except.pure]

end Operations

end RawAffineVector

namespace AffineVector

section Raw

variable {α : Type}

theorem wellShaped_raw
    (e : AffineVector α) :
    e.raw.WellShaped :=
  ⟨e.matrix_cols, e.matrix_rows⟩

theorem assemble_raw
    (e : AffineVector α) :
    RawAffineVector.assemble e.vars e.matrix e.offset = .ok e.raw :=
  RawAffineVector.assemble_of_shape e.matrix_rows e.matrix_cols

theorem raw_make
    (matrix : DenseMatrix α)
    (vars : Basis)
    (offset : List α) :
    RawAffineVector.make matrix vars offset
      =
    Checked.ofResult ((ofParts matrix vars offset).map raw) := by
  unfold RawAffineVector.make RawAffineVector.check ofParts
  by_cases hcols : matrix.cols = vars.length
  · by_cases hrows : matrix.rows.length = offset.length
    · simp [hcols, hrows]
      rfl
    · simp [hcols, hrows]
      rfl
  · simp [hcols]
    rfl

/-- No check of reading a component fails. -/
theorem raw_component
    (e : AffineVector α)
    (i : Nat) :
    e.raw.component i = Checked.ofResult ((e.component i).map Affine.raw) := by
  unfold RawAffineVector.component component
  by_cases h : i < e.offset.length
  · have hraw : ¬ e.raw.offset.length ≤ i := Nat.not_le.mpr h
    have hrow : i < e.matrix.rows.length := by
      rw [e.matrix_rows]
      exact h
    have hwidth : e.matrix.rows[i].length = e.vars.length := by
      rw [e.matrix.width _ (List.getElem_mem hrow), e.matrix_cols]
    rw [if_neg hraw, dif_pos h]
    simp only [raw, Checked.row_of_lt hrow, Checked.index_of_lt h, Checked.ok_bind]
    exact RawAffine.assemble_of_length_eq hwidth _
  · have hraw : e.raw.offset.length ≤ i := Nat.not_lt.mp h
    rw [if_pos hraw, dif_neg h]
    rfl

variable [Zero α] [Add α]

/-- No check of a sum fails. -/
theorem raw_add
    (a b : AffineVector α) :
    a.raw.add b.raw = Checked.ofResult ((a.add b).map raw) := by
  unfold RawAffineVector.add
  by_cases hlength : a.offset.length = b.offset.length
  · have hoffset : ¬ a.raw.offset.length ≠ b.raw.offset.length := not_not_intro hlength
    rw [if_neg hoffset]
    have hrows : a.matrix.rows.length = b.matrix.rows.length := by
      rw [a.matrix_rows, b.matrix_rows, hlength]
    by_cases h : a.vars.slotIds = b.vars.slotIds
    · have hraw : a.raw.vars.slotIds = b.raw.vars.slotIds := h
      have hcols : a.matrix.cols = b.matrix.cols := by
        rw [a.matrix_cols, b.matrix_cols, Basis.length_eq_of_slotIds_eq h]
      rw [if_pos hraw, add_of_slotIds_eq hlength h]
      simp only [raw, Checked.addMatrices_of_shape_eq hrows hcols,
        Checked.addVectors_of_length_eq hlength, Checked.ok_bind]
      rfl
    · have hraw : a.raw.vars.slotIds ≠ b.raw.vars.slotIds := h
      have hleft := Basis.slotMap_union_left a.vars b.vars
      have hright := Basis.slotMap_union_right a.vars b.vars
      rw [if_neg hraw, add_of_slotIds_ne hlength h]
      simp only [raw, Checked.ok_bind, Checked.moveColumns_of_slotMap hleft a.matrix_cols,
        Checked.moveColumns_of_slotMap hright b.matrix_cols,
        Checked.addMatrices_remapColumns _ _ _ hrows, Checked.addVectors_of_length_eq hlength]
      rfl
  · have hoffset : a.raw.offset.length ≠ b.raw.offset.length := hlength
    rw [if_pos hoffset, add_of_length_ne hlength]
    rfl

theorem raw_reindex
    (e : AffineVector α)
    (target : Basis) :
    e.raw.reindex target = Checked.ofResult ((e.reindex target).map raw) := by
  unfold RawAffineVector.reindex reindex
  have hvars : e.raw.vars.slotMap target = e.vars.slotMap target := rfl
  rw [hvars]
  cases h : e.vars.slotMap target with
  | error cause => rfl
  | ok slots =>
    have hmoved := Checked.moveColumns_of_slotMap h e.matrix_cols
    simp only [raw, Checked.ofResult_ok, Checked.ok_bind, hmoved]
    rfl

end Raw

end AffineVector

/-- A vector expression whose parts may have any shapes. -/
inductive RawVector (α : Type) where
  | constant (values : List α)
  | vars (slots : Basis)
  | affine (e : RawAffineVector α)

/-- The parts of an affine vector fit. -/
def RawVector.WellShaped
    {α : Type}
    (e : RawVector α) :
    Prop :=
  match e with
  | constant _ => True
  | vars _ => True
  | affine e => e.WellShaped

/-- The kind and the parts of a vector. -/
def VectorExpr.raw
    {α : Type} :
    VectorExpr α → RawVector α
  | constant values => .constant values
  | vars slots => .vars slots
  | affine e => .affine e.raw

namespace RawVector

section Operations

variable {α : Type}

/-- The number of components. -/
def length : RawVector α → Nat
  | constant values => values.length
  | vars slots => slots.length
  | affine e => e.offset.length

/-- The kind of an expression. -/
def kind : RawVector α → ExprKind
  | constant _ => .constantVector
  | vars _ => .varVector
  | affine _ => .affineVector

/-- One component. -/
def component
    (e : RawVector α)
    (i : Nat) :
    Checked (RawScalar α) :=
  match e with
  | constant values =>
    match values[i]? with
    | some k => .ok (.constant k)
    | none => .error (.refused (.dimensionMismatch .rowIndex values.length i))
  | vars slots =>
    match slots[i]? with
    | some v => .ok (.var v)
    | none => .error (.refused (.dimensionMismatch .rowIndex slots.length i))
  | affine e => (e.component i).map .affine

variable [Zero α] [One α]

/-- The expression as an affine vector. -/
def toAffine : RawVector α → RawAffineVector α
  | constant values => (AffineVector.ofConstants values).raw
  | vars slots => (AffineVector.ofBasis slots).raw
  | affine e => e

/-- The sum of two expressions. -/
def add
    [Add α]
    (a b : RawVector α) :
    Checked (RawVector α) :=
  if a.length ≠ b.length then
    .error (.refused (.dimensionMismatch .addedLengths a.length b.length))
  else
    match a, b with
    | constant x, constant y => (Checked.addVectors x y).map constant
    | a, b => (a.toAffine.add b.toAffine).map affine

/-- Add one number to every component. -/
def shift
    [Add α]
    (e : RawVector α)
    (k : α) :
    Checked (RawVector α) :=
  match e with
  | constant values => .ok (constant (values.map (· + k)))
  | e =>
    let a := e.toAffine
    (RawAffineVector.assemble a.vars a.matrix (a.offset.map (· + k))).map affine

/-- Multiply every component by a factor. -/
def scale
    [Mul α]
    (e : RawVector α)
    (factor : α) :
    RawVector α :=
  match e with
  | constant values => constant (values.map (· * factor))
  | e => affine (e.toAffine.scale factor)

end Operations

end RawVector

namespace VectorExpr

section Raw

variable {α : Type}

theorem wellShaped_raw
    (e : VectorExpr α) :
    e.raw.WellShaped := by
  cases e with
  | constant values => trivial
  | vars slots => trivial
  | affine e => exact e.wellShaped_raw

theorem length_raw
    (e : VectorExpr α) :
    e.raw.length = e.length := by
  cases e <;> rfl

theorem raw_component
    (e : VectorExpr α)
    (i : Nat) :
    e.raw.component i = Checked.ofResult ((e.component i).map ScalarExpr.raw) := by
  cases e with
  | constant values =>
    unfold raw RawVector.component component
    cases h : values[i]? <;> simp only [h] <;> rfl
  | vars slots =>
    unfold raw RawVector.component component
    cases h : slots[i]? <;> simp only [h] <;> rfl
  | affine e =>
    have hcomponent := e.raw_component i
    unfold raw RawVector.component component
    simp only [hcomponent]
    cases e.component i <;> rfl

variable [Zero α] [One α]

theorem raw_toAffine
    (e : VectorExpr α) :
    e.raw.toAffine = e.toAffine.raw := by
  cases e <;> rfl

theorem raw_scale
    [Mul α]
    (e : VectorExpr α)
    (factor : α) :
    e.raw.scale factor = (e.scale factor).raw := by
  cases e <;> rfl

variable [Add α]

/-- No check of a sum fails. -/
theorem raw_add
    (a b : VectorExpr α) :
    a.raw.add b.raw = Checked.ofResult ((a.add b).map raw) := by
  unfold RawVector.add add
  by_cases h : a.length = b.length
  · have hraw : ¬ a.raw.length ≠ b.raw.length := by
      rw [length_raw, length_raw]
      exact not_not_intro h
    have haffine :
        (a.raw.toAffine.add b.raw.toAffine).map RawVector.affine
          =
        Checked.ofResult (((a.toAffine.add b.toAffine).map affine).map raw) := by
      rw [raw_toAffine, raw_toAffine, AffineVector.raw_add]
      cases a.toAffine.add b.toAffine <;> rfl
    rw [if_neg hraw, if_pos h]
    cases a with
    | constant x =>
      cases b with
      | constant y =>
        exact congrArg (Except.map RawVector.constant) (Checked.addVectors_of_length_eq h)
      | _ => exact haffine
    | _ =>
      exact haffine
  · have hraw : a.raw.length ≠ b.raw.length := by
      rw [length_raw, length_raw]
      exact h
    rw [if_pos hraw, if_neg h, length_raw, length_raw]
    rfl

theorem raw_shift
    (e : VectorExpr α)
    (k : α) :
    e.raw.shift k = .ok (e.shift k).raw := by
  have haffine (a : AffineVector α) :
      (RawAffineVector.assemble a.raw.vars a.raw.matrix (a.raw.offset.map (· + k))).map
          RawVector.affine
        = .ok (raw (affine (a.shift k))) :=
    congrArg (Except.map RawVector.affine) (a.shift k).assemble_raw
  cases e with
  | constant values => rfl
  | vars slots => exact haffine (.ofBasis slots)
  | affine e => exact haffine e

end Raw

end VectorExpr

end MathProgram

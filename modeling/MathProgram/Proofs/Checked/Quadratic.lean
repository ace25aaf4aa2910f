import MathProgram.Expression.Quadratic
import MathProgram.Proofs.Checked.Affine

/-!
# Checked algebra of quadratic expressions

The operations on raw quadratic expressions move matrices and linear parts by
the checked loops, and read the coefficients entry by entry.

**Results.**
* `Quadratic.raw_add`, `Quadratic.raw_coeffs`: no check of a sum or of reading
  the coefficients fails.
-/

namespace MathProgram

/-- The parts of a quadratic expression. -/
structure RawQuadratic (α : Type) where
  vars : Basis
  quad : DenseMatrix α
  linear : List α
  constant : α

/-- The matrix is square over the variables, and there is one linear coefficient per variable. -/
structure RawQuadratic.WellShaped
    {α : Type}
    (e : RawQuadratic α) :
    Prop where
  quad_rows : e.quad.rows.length = e.vars.length
  quad_cols : e.quad.cols = e.vars.length
  length_linear : e.linear.length = e.vars.length

/-- The parts of an expression. -/
def Quadratic.raw
    {α : Type}
    (e : Quadratic α) :
    RawQuadratic α where
  vars := e.vars
  quad := e.quad
  linear := e.linear
  constant := e.constant

namespace RawQuadratic

section Operations

variable {α : Type}

/-- Refuse parts that do not fit. -/
def check
    (e : RawQuadratic α) :
    Checked Unit :=
  let n := e.vars.length
  if e.quad.rows.length ≠ n then
    .error (.refused (.dimensionMismatch .quadRowsOfVariables n e.quad.rows.length))
  else if e.quad.cols ≠ n then
    .error (.refused (.dimensionMismatch .quadColumnsOfVariables n e.quad.cols))
  else if e.linear.length ≠ n then
    .error (.refused (.dimensionMismatch .linearPartOfVariables n e.linear.length))
  else
    .ok ()

/-- An expression from parts that the caller supplies. -/
def make
    (quad : DenseMatrix α)
    (linear : List α)
    (constant : α)
    (vars : Basis) :
    Checked (RawQuadratic α) := do
  let e : RawQuadratic α := { vars, quad, linear, constant }
  e.check
  return e

/-- An affine expression as a quadratic one with a zero matrix. -/
def ofAffine
    [Zero α]
    (e : RawAffine α) :
    RawQuadratic α where
  vars := e.vars
  quad := .zeros e.vars.length e.vars.length
  linear := e.coeffs
  constant := e.constant

/-- The linear part and the constant. -/
def affinePart
    (e : RawQuadratic α) :
    Checked (RawAffine α) :=
  RawAffine.assemble e.vars e.linear e.constant

/-- The sum of two expressions. -/
def add
    [Zero α]
    [Add α]
    (a b : RawQuadratic α) :
    Checked (RawQuadratic α) :=
  if a.vars.slotIds = b.vars.slotIds then do
    let quad ← Checked.addMatrices a.quad b.quad
    let linear ← Checked.addVectors a.linear b.linear
    return { vars := a.vars, quad, linear, constant := a.constant + b.constant }
  else do
    let union := a.vars.union b.vars
    let width := union.basis.length
    let left ← Checked.moveSquare union.leftSlots width a.quad
    let right ← Checked.moveSquare union.rightSlots width b.quad
    let quad ← Checked.addMatrices left right
    let left ← Checked.moveVector union.leftSlots width a.linear
    let right ← Checked.moveVector union.rightSlots width b.linear
    let linear ← Checked.addVectors left right
    return { vars := union.basis, quad, linear, constant := a.constant + b.constant }

/-- Multiply every entry and the constant by a factor. -/
def scale
    [Mul α]
    (e : RawQuadratic α)
    (factor : α) :
    RawQuadratic α where
  vars := e.vars
  quad := e.quad.scale factor
  linear := e.linear.map (· * factor)
  constant := e.constant * factor

/-- Move the parts of an expression to a basis along a slot list. -/
def remap
    [Zero α]
    [Add α]
    (e : RawQuadratic α)
    (target : Basis)
    (slots : List Nat) :
    Checked (RawQuadratic α) := do
  let quad ← Checked.moveSquare slots target.length e.quad
  let linear ← Checked.moveVector slots target.length e.linear
  return { vars := target, quad, linear, constant := e.constant }

/-- Move an expression to a basis that has all of its ids. -/
def reindex
    [Zero α]
    [Add α]
    (e : RawQuadratic α)
    (target : Basis) :
    Checked (RawQuadratic α) := do
  e.remap target (← Checked.ofResult (e.vars.slotMap target))

/-- The same expression with one slot per id. -/
def folded
    [Zero α]
    [Add α]
    (e : RawQuadratic α) :
    Checked (RawQuadratic α) :=
  e.remap e.vars.fold.1 e.vars.fold.2

/-- The coefficients of the products of two distinct ids. -/
def coeffs
    [Zero α]
    [Add α]
    (e : RawQuadratic α) :
    Checked (List α) := do
  let folded ← e.folded
  let n := folded.vars.length
  let rows ← (List.range n).mapM fun i => do
    let square ← Checked.entry folded.quad i i
    let products ← (List.range' (i + 1) (n - (i + 1))).mapM fun j => do
      return (← Checked.entry folded.quad i j) + (← Checked.entry folded.quad j i)
    return square :: products
  return rows.flatten

end Operations

end RawQuadratic

namespace Quadratic

section Raw

variable {α : Type}

theorem wellShaped_raw
    (e : Quadratic α) :
    e.raw.WellShaped :=
  ⟨e.quad_rows, e.quad_cols, e.length_linear⟩

theorem raw_make
    (quad : DenseMatrix α)
    (linear : List α)
    (constant : α)
    (vars : Basis) :
    RawQuadratic.make quad linear constant vars
      =
    Checked.ofResult ((ofParts quad linear constant vars).map raw) := by
  unfold RawQuadratic.make RawQuadratic.check ofParts
  by_cases hrows : quad.rows.length = vars.length
  · by_cases hcols : quad.cols = vars.length
    · by_cases hlinear : linear.length = vars.length
      · simp [hrows, hcols, hlinear]
        rfl
      · simp [hrows, hcols, hlinear]
        rfl
    · simp [hrows, hcols]
      rfl
  · simp [hrows]
    rfl

theorem raw_affinePart
    (e : Quadratic α) :
    e.raw.affinePart = .ok e.affinePart.raw :=
  e.affinePart.assemble_raw

variable [Zero α] [Add α]

theorem raw_remap
    {e : Quadratic α}
    {target : Basis}
    {slots : List Nat}
    (h : e.vars.slotMap target = .ok slots) :
    e.raw.remap target slots = .ok (e.remap target slots).raw := by
  have hquad := Checked.moveSquare_of_slotMap h e.quad_rows e.quad_cols
  have hlinear := Checked.moveVector_of_slotMap h e.length_linear
  unfold RawQuadratic.remap
  simp only [raw, hquad, hlinear, Checked.ok_bind]
  rfl

theorem raw_reindex
    (e : Quadratic α)
    (target : Basis) :
    e.raw.reindex target = Checked.ofResult ((e.reindex target).map raw) := by
  unfold RawQuadratic.reindex reindex
  have hvars : e.raw.vars.slotMap target = e.vars.slotMap target := rfl
  rw [hvars]
  cases h : e.vars.slotMap target with
  | error cause => rfl
  | ok slots => exact raw_remap h

theorem raw_folded
    (e : Quadratic α) :
    e.raw.folded = .ok e.folded.raw :=
  raw_remap (Basis.slotMap_fold e.vars)

/-- No check of a sum fails. -/
theorem raw_add
    (a b : Quadratic α) :
    a.raw.add b.raw = .ok (a.add b).raw := by
  unfold RawQuadratic.add
  by_cases h : a.vars.slotIds = b.vars.slotIds
  · have hraw : a.raw.vars.slotIds = b.raw.vars.slotIds := h
    have hvars := Basis.length_eq_of_slotIds_eq h
    have hrows : a.quad.rows.length = b.quad.rows.length := by
      rw [a.quad_rows, b.quad_rows, hvars]
    have hcols : a.quad.cols = b.quad.cols := by
      rw [a.quad_cols, b.quad_cols, hvars]
    have hlinear : a.linear.length = b.linear.length := by
      rw [a.length_linear, b.length_linear, hvars]
    rw [if_pos hraw, add_of_slotIds_eq h]
    simp only [raw, Checked.addMatrices_of_shape_eq hrows hcols,
      Checked.addVectors_of_length_eq hlinear, Checked.ok_bind]
    rfl
  · have hraw : a.raw.vars.slotIds ≠ b.raw.vars.slotIds := h
    have hleft := Basis.slotMap_union_left a.vars b.vars
    have hright := Basis.slotMap_union_right a.vars b.vars
    rw [if_neg hraw, add_of_slotIds_ne h]
    simp only [raw, Checked.ok_bind,
      Checked.moveSquare_of_slotMap hleft a.quad_rows a.quad_cols,
      Checked.moveSquare_of_slotMap hright b.quad_rows b.quad_cols,
      Checked.moveVector_of_slotMap hleft a.length_linear,
      Checked.moveVector_of_slotMap hright b.length_linear,
      Checked.addMatrices_remapSquare, Checked.addVectors_remapVector]
    rfl

/-- No check of reading the coefficients fails. -/
theorem raw_coeffs
    (e : Quadratic α) :
    e.raw.coeffs = .ok e.coeffs := by
  have hcols : e.folded.quad.cols = e.folded.quad.rows.length := by
    rw [e.folded.quad_cols, e.folded.quad_rows]
  have hentry {i j : Nat}
      (hi : i < e.folded.quad.rows.length)
      (hj : j < e.folded.quad.rows.length) :
      Checked.entry e.folded.quad i j = .ok (e.folded.quad.entry i j) :=
    Checked.entry_of_lt hi (hcols ▸ hj)
  have hproducts {i : Nat} (hi : i < e.folded.quad.rows.length) :
      (List.range' (i + 1) (e.folded.quad.rows.length - (i + 1))).mapM
          (fun j => do
            return (← Checked.entry e.folded.quad i j) + (← Checked.entry e.folded.quad j i))
        =
      (.ok ((List.range' (i + 1) (e.folded.quad.rows.length - (i + 1))).map fun j =>
        e.folded.quad.entry i j + e.folded.quad.entry j i) : Checked (List α)) := by
    rw [mapM_eq_ok_iff, List.map_map]
    apply List.map_congr_left
    intro j hj
    have hlt : j < e.folded.quad.rows.length := by
      have hrange := List.mem_range'_1.mp hj
      omega
    rw [hentry hi hlt, hentry hlt hi]
    rfl
  have hrows :
      (List.range e.folded.quad.rows.length).mapM
          (fun i => do
            let square ← Checked.entry e.folded.quad i i
            let products ← (List.range' (i + 1) (e.folded.quad.rows.length - (i + 1))).mapM fun j =>
              do return (← Checked.entry e.folded.quad i j) + (← Checked.entry e.folded.quad j i)
            return square :: products)
        =
      (.ok ((List.range e.folded.quad.rows.length).map fun i =>
        e.folded.quad.entry i i
          :: (List.range' (i + 1) (e.folded.quad.rows.length - (i + 1))).map fun j =>
            e.folded.quad.entry i j + e.folded.quad.entry j i) : Checked (List (List α))) := by
    rw [mapM_eq_ok_iff, List.map_map]
    apply List.map_congr_left
    intro i hi
    have hlt : i < e.folded.quad.rows.length := List.mem_range.mp hi
    rw [hentry hlt hlt, Checked.ok_bind, hproducts hlt]
    rfl
  unfold RawQuadratic.coeffs
  rw [raw_folded, Checked.ok_bind]
  simp only [raw, ← e.folded.quad_rows, hrows, Checked.ok_bind]
  rfl

end Raw

end Quadratic

end MathProgram

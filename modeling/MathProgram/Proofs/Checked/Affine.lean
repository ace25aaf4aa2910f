import MathProgram.Proofs.Alignment
import MathProgram.Proofs.Checked.Loops
import MathProgram.Proofs.SlotMap

/-!
# Checked algebra of affine expressions

A raw expression has the parts of an expression without any promise about their
shapes.  The operations on raw expressions check every access, every addition
and every assertion, and are stopped by the first one that fails.

**Shapes.**  Forgetting its promises makes an expression raw.  On expressions
that were made in this way no check fails: each operation goes through and gives
the raw form of what the library computes.

**Results.**
* `moveVector_of_slotMap`, `moveSquare_of_slotMap`, `moveColumns_of_slotMap`:
  moving along a slot map stays in range.
* `Affine.raw_add`: no check of a sum fails.
-/

namespace MathProgram

section SlotMaps

variable {α : Type} [Zero α] [Add α]
variable {source target : Basis} {slots : List Nat}

theorem Checked.moveVector_of_slotMap
    (h : source.slotMap target = .ok slots)
    {coeffs : List α}
    (hlength : coeffs.length = source.length) :
    Checked.moveVector slots target.length coeffs
      = .ok (remapVector slots target.length coeffs) := by
  apply Checked.moveVector_eq_ok
  · exact Nat.le_of_eq ((Basis.length_of_slotMap h).trans hlength.symm)
  · exact fun slot hslot => Basis.lt_of_mem_slotMap h hslot

theorem Checked.moveSquare_of_slotMap
    (h : source.slotMap target = .ok slots)
    {m : DenseMatrix α}
    (hrows : m.rows.length = source.length)
    (hcols : m.cols = source.length) :
    Checked.moveSquare slots target.length m
      = .ok (remapSquare slots target.length m) := by
  apply Checked.moveSquare_eq_ok
  · exact Nat.le_of_eq ((Basis.length_of_slotMap h).trans hrows.symm)
  · exact Nat.le_of_eq ((Basis.length_of_slotMap h).trans hcols.symm)
  · exact fun slot hslot => Basis.lt_of_mem_slotMap h hslot

theorem Checked.moveColumns_of_slotMap
    (h : source.slotMap target = .ok slots)
    {m : DenseMatrix α}
    (hcols : m.cols = source.length) :
    Checked.moveColumns slots target.length m
      = .ok (remapColumns slots target.length m) := by
  apply Checked.moveColumns_eq_ok
  · exact Nat.le_of_eq ((Basis.length_of_slotMap h).trans hcols.symm)
  · exact fun slot hslot => Basis.lt_of_mem_slotMap h hslot

theorem Checked.addVectors_remapVector
    (left right : List Nat)
    (width : Nat)
    (a b : List α) :
    Checked.addVectors
        (remapVector left width a) (remapVector right width b)
      =
    .ok
      (List.zipWith (· + ·)
        (remapVector left width a) (remapVector right width b)) :=
  Checked.addVectors_of_length_eq (by simp)

theorem Checked.addMatrices_remapSquare
    (left right : List Nat)
    (width : Nat)
    (a b : DenseMatrix α) :
    Checked.addMatrices
        (remapSquare left width a) (remapSquare right width b)
      =
    .ok
      ((remapSquare left width a).add (remapSquare right width b) rfl) := by
  apply Checked.addMatrices_of_shape_eq
  simp

theorem Checked.addMatrices_remapColumns
    (left right : List Nat)
    (width : Nat)
    {a b : DenseMatrix α}
    (hrows : a.rows.length = b.rows.length) :
    Checked.addMatrices
        (remapColumns left width a) (remapColumns right width b)
      =
    .ok
      ((remapColumns left width a).add (remapColumns right width b) rfl) := by
  apply Checked.addMatrices_of_shape_eq
  simp [hrows]

end SlotMaps

/-- The parts of an affine expression. -/
structure RawAffine (α : Type) where
  vars : Basis
  coeffs : List α
  constant : α

/-- There is one coefficient per variable. -/
def RawAffine.WellShaped
    {α : Type}
    (e : RawAffine α) :
    Prop :=
  e.coeffs.length = e.vars.length

/-- The parts of an expression. -/
def Affine.raw
    {α : Type}
    (e : Affine α) :
    RawAffine α where
  vars := e.vars
  coeffs := e.coeffs
  constant := e.constant

namespace RawAffine

section Operations

variable {α : Type}

/-- An expression from parts that the caller supplies. -/
def make
    (vars : Basis)
    (coeffs : List α)
    (constant : α) :
    Checked (RawAffine α) :=
  if coeffs.length = vars.length then
    .ok { vars, coeffs, constant }
  else
    .error (.refused (.dimensionMismatch .coefficientsOfVariables vars.length coeffs.length))

/-- An expression from parts that are asserted to fit. -/
def assemble
    (vars : Basis)
    (coeffs : List α)
    (constant : α) :
    Checked (RawAffine α) := do
  Checked.require (vars.length == coeffs.length)
  return { vars, coeffs, constant }

/-- The sum of two expressions. -/
def add
    [Zero α]
    [Add α]
    (a b : RawAffine α) :
    Checked (RawAffine α) :=
  if a.vars.slotIds = b.vars.slotIds then do
    assemble a.vars (← Checked.addVectors a.coeffs b.coeffs) (a.constant + b.constant)
  else do
    let union := a.vars.union b.vars
    let left ← Checked.moveVector union.leftSlots union.basis.length a.coeffs
    let right ← Checked.moveVector union.rightSlots union.basis.length b.coeffs
    assemble union.basis (← Checked.addVectors left right) (a.constant + b.constant)

/-- Multiply every coefficient and the constant by a factor. -/
def scale
    [Mul α]
    (e : RawAffine α)
    (factor : α) :
    Checked (RawAffine α) :=
  assemble e.vars (e.coeffs.map (· * factor)) (e.constant * factor)

/-- Move an expression to a basis that has all of its ids. -/
def reindex
    [Zero α]
    [Add α]
    (e : RawAffine α)
    (target : Basis) :
    Checked (RawAffine α) := do
  let slots ← Checked.ofResult (e.vars.slotMap target)
  assemble target (← Checked.moveVector slots target.length e.coeffs) e.constant

/-- The same expression with one slot per id. -/
def folded
    [Zero α]
    [Add α]
    (e : RawAffine α) :
    Checked (RawAffine α) := do
  let (basis, slots) := e.vars.fold
  assemble basis (← Checked.moveVector slots basis.length e.coeffs) e.constant

theorem assemble_of_length_eq
    {vars : Basis}
    {coeffs : List α}
    (h : coeffs.length = vars.length)
    (constant : α) :
    assemble vars coeffs constant = .ok { vars, coeffs, constant } := by
  simp [assemble, Checked.require, h, bind, Except.bind, pure, Except.pure]

end Operations

end RawAffine

namespace Affine

section Raw

variable {α : Type}

theorem wellShaped_raw
    (e : Affine α) :
    e.raw.WellShaped :=
  e.length_coeffs

theorem assemble_raw
    (e : Affine α) :
    RawAffine.assemble e.vars e.coeffs e.constant = .ok e.raw :=
  RawAffine.assemble_of_length_eq e.length_coeffs e.constant

theorem raw_make
    (vars : Basis)
    (coeffs : List α)
    (constant : α) :
    RawAffine.make vars coeffs constant
      =
    Checked.ofResult ((ofParts vars coeffs constant).map raw) := by
  unfold RawAffine.make ofParts
  split <;> rfl

theorem raw_scale
    [Mul α]
    (e : Affine α)
    (factor : α) :
    e.raw.scale factor = .ok (e.scale factor).raw :=
  (e.scale factor).assemble_raw

variable [Zero α] [Add α]

/-- No check of a sum fails. -/
theorem raw_add
    (a b : Affine α) :
    a.raw.add b.raw = .ok (a.add b).raw := by
  unfold RawAffine.add
  by_cases h : a.vars.slotIds = b.vars.slotIds
  · have hraw : a.raw.vars.slotIds = b.raw.vars.slotIds := h
    have hlength : a.coeffs.length = b.coeffs.length := by
      rw [a.length_coeffs, b.length_coeffs, Basis.length_eq_of_slotIds_eq h]
    rw [if_pos hraw, add_of_slotIds_eq h, ← assemble_raw]
    simp only [raw, Checked.addVectors_of_length_eq hlength, Checked.ok_bind]
    rfl
  · have hraw : a.raw.vars.slotIds ≠ b.raw.vars.slotIds := h
    have hleft := Checked.moveVector_of_slotMap (Basis.slotMap_union_left a.vars b.vars)
      a.length_coeffs
    have hright := Checked.moveVector_of_slotMap (Basis.slotMap_union_right a.vars b.vars)
      b.length_coeffs
    rw [if_neg hraw, add_of_slotIds_ne h, ← assemble_raw]
    simp only [raw, hleft, hright, Checked.addVectors_remapVector, Checked.ok_bind]
    rfl

theorem raw_reindex
    (e : Affine α)
    (target : Basis) :
    e.raw.reindex target = Checked.ofResult ((e.reindex target).map raw) := by
  unfold RawAffine.reindex reindex
  simp only [raw]
  cases h : e.vars.slotMap target with
  | error cause => rfl
  | ok slots =>
    have hmoved := Checked.moveVector_of_slotMap h e.length_coeffs
    simp only [Checked.ofResult_ok, Checked.ok_bind, hmoved]
    exact (e.remap target slots).assemble_raw

theorem raw_folded
    (e : Affine α) :
    e.raw.folded = .ok e.folded.raw := by
  have hmoved := Checked.moveVector_of_slotMap (Basis.slotMap_fold e.vars) e.length_coeffs
  unfold RawAffine.folded
  simp only [raw, hmoved, Checked.ok_bind]
  exact e.folded.assemble_raw

end Raw

end Affine

end MathProgram

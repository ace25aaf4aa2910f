import MathProgram.Proofs.AlignedSum
import MathProgram.Proofs.Rows

/-!
# Sums of vector expressions

Vectors of one length are always added, and only their kinds decide how: two
constant vectors entry by entry, all others as affine vectors.  `VectorExpr.sum`
is this total addition.

**Reading a vector.**  A vector expression is known from its kind and from the
affine vector it stands for, and an affine vector from its components.  What is
said of sums of affine expressions therefore carries over to sums of vectors.

**Results.**
* `AffineVector.component_add`: a component of a sum is the sum of the components.
* `VectorExpr.toAffine_sum`, `VectorExpr.toAffine_shift`: adding vectors, or a
  number to a vector, is adding to the affine vectors they stand for.
* `VectorExpr.ext_toAffine`: one kind and one affine vector make one expression.

None of this uses a law of arithmetic.
-/

namespace MathProgram

namespace AffineVector

section Components

variable {α : Type}

/-- A component has the basis of the vector, a row of its matrix and an entry of its offset. -/
theorem component_eq_ok_iff
    {e : AffineVector α}
    {i : Nat}
    {s : Affine α} :
    e.component i = .ok s
      ↔
    s.vars = e.vars ∧ e.matrix.rows[i]? = some s.coeffs ∧ e.offset[i]? = some s.constant := by
  unfold component
  split
  next hi =>
    have hrow : i < e.matrix.rows.length := by
      rw [e.matrix_rows]
      exact hi
    rw [List.getElem?_eq_getElem hi, List.getElem?_eq_getElem hrow, Except.ok.injEq]
    constructor
    · rintro rfl
      exact ⟨rfl, rfl, rfl⟩
    · rintro ⟨hvars, hcoeffs, hconstant⟩
      ext1
      · exact hvars.symm
      · exact Option.some.inj hcoeffs
      · exact Option.some.inj hconstant
  next hi =>
    rw [List.getElem?_eq_none (Nat.not_lt.mp hi)]
    simp

theorem exists_component
    {e : AffineVector α}
    {i : Nat}
    (h : i < e.length) :
    ∃ s, e.component i = .ok s := by
  exact ⟨_, dif_pos h⟩

theorem component_of_length_le
    {e : AffineVector α}
    {i : Nat}
    (h : e.length ≤ i) :
    e.component i = .error (.dimensionMismatch .rowIndex e.length i) := by
  exact dif_neg (Nat.not_lt.mpr h)

@[simp] theorem length_shift
    [Add α]
    (e : AffineVector α)
    (k : α) :
    (e.shift k).length = e.length := by
  exact List.length_map _

@[simp] theorem length_scale
    [Mul α]
    (e : AffineVector α)
    (factor : α) :
    (e.scale factor).length = e.length := by
  exact List.length_map _

/-- Vectors that differ in their offsets at most. -/
def SameRows
    (a b : AffineVector α) :
    Prop :=
  b.vars = a.vars ∧ b.matrix = a.matrix

theorem SameRows.refl
    (e : AffineVector α) :
    e.SameRows e :=
  ⟨rfl, rfl⟩

theorem sameRows_shift
    [Add α]
    (e : AffineVector α)
    (k : α) :
    e.SameRows (e.shift k) :=
  ⟨rfl, rfl⟩

theorem exists_component_iff
    {e : AffineVector α}
    {i : Nat} :
    (∃ s, e.component i = .ok s) ↔ i < e.length := by
  constructor
  · rintro ⟨s, hs⟩
    obtain ⟨_, _, hoffset⟩ := component_eq_ok_iff.mp hs
    exact (List.getElem?_eq_some_iff.mp hoffset).1
  · exact exists_component

variable [Zero α] [Add α]

/-- Rows of a vector are moved along its columns, and added up where the vectors are. -/
theorem respects_component
    (i : Nat) :
    (slotted α).Respects (Affine.slotted α) (fun e s => e.component i = .ok s) where
  vars_eq := by
    intro e s h
    exact (component_eq_ok_iff.mp h).1
  remap := by
    intro e s basis slots h
    obtain ⟨_, hrow, hoffset⟩ := component_eq_ok_iff.mp h
    refine component_eq_ok_iff.mpr ⟨rfl, ?_, hoffset⟩
    have hmoved : (e.matrix.rows.map (remapVector slots basis.length))[i]?
        = some (remapVector slots basis.length s.coeffs) := by
      rw [List.getElem?_map, hrow]
      rfl
    exact hmoved
  addSlots := by
    intro a b s t _ _ ha hb
    obtain ⟨hvars, hrow, hoffset⟩ := component_eq_ok_iff.mp ha
    obtain ⟨_, hrow', hoffset'⟩ := component_eq_ok_iff.mp hb
    refine component_eq_ok_iff.mpr ⟨hvars, ?_, ?_⟩
    · exact List.getElem?_zipWith_eq_some.mpr ⟨_, _, hrow, hrow', rfl⟩
    · exact List.getElem?_zipWith_eq_some.mpr ⟨_, _, hoffset, hoffset', rfl⟩

/-- A component of a sum is the sum of the components. -/
theorem component_add
    {a b : AffineVector α}
    {i : Nat}
    {s t : Affine α}
    (hs : a.component i = .ok s)
    (ht : b.component i = .ok t) :
    ((slotted α).add a b).component i = .ok (s.add t) := by
  exact (respects_component i).add hs ht

/-- The offset of a sum does not depend on how its operands are aligned. -/
theorem offset_add
    (a b : AffineVector α) :
    ((slotted α).add a b).offset = List.zipWith (· + ·) a.offset b.offset := by
  by_cases h : a.vars.slotIds = b.vars.slotIds
  · rw [(slotted α).add_of_slotIds_eq h]
    rfl
  · rw [(slotted α).add_of_slotIds_ne h]
    rfl

theorem length_add
    {a b : AffineVector α}
    (h : a.length = b.length) :
    ((slotted α).add a b).length = a.length := by
  rw [length, offset_add, List.length_zipWith]
  exact (congrArg (min a.length) h.symm).trans (Nat.min_self _)

/-- The basis and the matrix of a sum do not depend on offsets. -/
theorem respects_sameRows :
    (slotted α).Respects (slotted α) SameRows where
  vars_eq := by
    rintro e f ⟨hvars, _⟩
    exact hvars
  remap := by
    rintro e f basis slots ⟨_, hmatrix⟩
    exact ⟨rfl, congrArg (remapColumns slots basis.length) hmatrix⟩
  addSlots := by
    rintro a b f g h h' ⟨hvars, hmatrix⟩ ⟨_, hmatrix'⟩
    have hcols : f.matrix.cols = a.matrix.cols := by
      rw [hmatrix]
    have hrows : List.zipWith (List.zipWith (· + ·)) f.matrix.rows g.matrix.rows
        = List.zipWith (List.zipWith (· + ·)) a.matrix.rows b.matrix.rows := by
      rw [hmatrix, hmatrix']
    exact ⟨hvars, DenseMatrix.ext_rows hcols hrows⟩

/-- Constant vectors have no columns, so that only their offsets are added. -/
theorem ofConstants_add
    (x y : List α) :
    (slotted α).add (ofConstants x) (ofConstants y) = ofConstants (List.zipWith (· + ·) x y) := by
  have hsame : ((slotted α).vars (ofConstants x)).slotIds
      = ((slotted α).vars (ofConstants y)).slotIds := rfl
  rw [(slotted α).add_of_slotIds_eq hsame]
  ext1
  · rfl
  · refine DenseMatrix.ext_rows rfl ?_
    have hrows (n m : Nat) : List.zipWith (List.zipWith (· + ·))
        (DenseMatrix.zeros n 0 : DenseMatrix α).rows (DenseMatrix.zeros m 0).rows
          = (DenseMatrix.zeros (min n m) 0).rows := by
      simp [DenseMatrix.rows_zeros]
    have hlength : (ofConstants (List.zipWith (· + ·) x y)).matrix.rows
        = (DenseMatrix.zeros (min x.length y.length) 0).rows :=
      congrArg (fun n => (DenseMatrix.zeros n 0).rows) List.length_zipWith
    exact (hrows x.length y.length).trans hlength.symm
  · rfl

end Components

end AffineVector

namespace VectorExpr

section Sums

variable {α : Type}

theorem component_of_length_le
    {e : VectorExpr α}
    {i : Nat}
    (h : e.length ≤ i) :
    e.component i = .error (.dimensionMismatch .rowIndex e.length i) := by
  cases e with
  | constant values =>
    have hnone : values[i]? = none := List.getElem?_eq_none h
    simp [component, hnone, length]
  | vars slots =>
    have hnone : slots[i]? = none := List.getElem?_eq_none h
    simp [component, hnone, length]
  | affine e =>
    exact congrArg (Except.map _) (AffineVector.component_of_length_le h)

variable [Zero α] [One α]

@[simp] theorem length_toAffine
    (e : VectorExpr α) :
    e.toAffine.length = e.length := by
  cases e with
  | constant values => rfl
  | vars slots => exact List.length_replicate
  | affine e => rfl

/-- A vector expression is known from its kind and from the affine vector it stands for. -/
theorem ext_toAffine
    {a b : VectorExpr α}
    (hkind : a.kind = b.kind)
    (h : a.toAffine = b.toAffine) :
    a = b := by
  cases a with
  | constant x =>
    cases b with
    | constant y => exact congrArg constant (congrArg AffineVector.offset h)
    | vars _ => cases hkind
    | affine _ => cases hkind
  | vars x =>
    cases b with
    | constant _ => cases hkind
    | vars y => exact congrArg vars (congrArg AffineVector.vars h)
    | affine _ => cases hkind
  | affine x =>
    cases b with
    | constant _ => cases hkind
    | vars _ => cases hkind
    | affine y => exact congrArg affine h

variable [Add α]

/-- The sum of two vectors, over the components both have. -/
def sum
    (a b : VectorExpr α) :
    VectorExpr α :=
  match a, b with
  | constant x, constant y => constant (List.zipWith (· + ·) x y)
  | a, b => affine ((AffineVector.slotted α).add a.toAffine b.toAffine)

/-- Two constant vectors are added as such, all others as affine vectors. -/
theorem sum_cases
    (a b : VectorExpr α) :
    (∃ x y, a = constant x ∧ b = constant y ∧ a.sum b = constant (List.zipWith (· + ·) x y))
      ∨
    (¬ (a.kind = .constantVector ∧ b.kind = .constantVector) ∧
      a.sum b = affine ((AffineVector.slotted α).add a.toAffine b.toAffine)) := by
  cases a with
  | constant x =>
    cases b with
    | constant y => exact .inl ⟨x, y, rfl, rfl, rfl⟩
    | vars _ => exact .inr ⟨by simp [kind], rfl⟩
    | affine _ => exact .inr ⟨by simp [kind], rfl⟩
  | vars _ => exact .inr ⟨by simp [kind], rfl⟩
  | affine _ => exact .inr ⟨by simp [kind], rfl⟩

theorem sum_of_kind
    {a b : VectorExpr α}
    (h : ¬ (a.kind = .constantVector ∧ b.kind = .constantVector)) :
    a.sum b = affine ((AffineVector.slotted α).add a.toAffine b.toAffine) := by
  rcases sum_cases a b with ⟨x, y, rfl, rfl, _⟩ | ⟨_, hsum⟩
  · exact absurd ⟨rfl, rfl⟩ h
  · exact hsum

/-- Vectors of one length are added, whatever their kinds. -/
theorem add_of_length_eq
    {a b : VectorExpr α}
    (h : a.length = b.length) :
    a.add b = .ok (a.sum b) := by
  have haffine : a.toAffine.add b.toAffine
      = .ok ((AffineVector.slotted α).add a.toAffine b.toAffine) := by
    apply AffineVector.add_of_length_eq
    rw [length_toAffine, length_toAffine, h]
  refine (if_pos h).trans ?_
  cases a with
  | constant x =>
    cases b with
    | constant y => rfl
    | vars _ => exact congrArg (Except.map affine) haffine
    | affine _ => exact congrArg (Except.map affine) haffine
  | vars _ => exact congrArg (Except.map affine) haffine
  | affine _ => exact congrArg (Except.map affine) haffine

theorem add_of_length_ne
    {a b : VectorExpr α}
    (h : a.length ≠ b.length) :
    a.add b = .error (.dimensionMismatch .addedLengths a.length b.length) := by
  exact if_neg h

theorem toAffine_sum
    (a b : VectorExpr α) :
    (a.sum b).toAffine = (AffineVector.slotted α).add a.toAffine b.toAffine := by
  rcases sum_cases a b with ⟨x, y, rfl, rfl, hsum⟩ | ⟨_, hsum⟩
  · rw [hsum]
    exact (AffineVector.ofConstants_add x y).symm
  · rw [hsum]
    rfl

theorem kind_sum
    (a b : VectorExpr α) :
    (a.sum b).kind
      =
    if a.kind = .constantVector ∧ b.kind = .constantVector then .constantVector
    else .affineVector := by
  rcases sum_cases a b with ⟨x, y, rfl, rfl, hsum⟩ | ⟨hkinds, hsum⟩
  · rw [hsum]
    rfl
  · rw [hsum, if_neg hkinds]
    rfl

theorem length_sum
    {a b : VectorExpr α}
    (h : a.length = b.length) :
    (a.sum b).length = a.length := by
  have haffine : a.toAffine.length = b.toAffine.length := by
    rw [length_toAffine, length_toAffine, h]
  rw [← length_toAffine (a.sum b), toAffine_sum, AffineVector.length_add haffine, length_toAffine]

theorem toAffine_shift
    (e : VectorExpr α)
    (k : α) :
    (e.shift k).toAffine = e.toAffine.shift k := by
  cases e with
  | constant values =>
    have hlength : (values.map (· + k)).length = values.length :=
      List.length_map _
    ext1
    · rfl
    · exact congrArg (DenseMatrix.zeros · 0) hlength
    · rfl
  | vars slots => rfl
  | affine e => rfl

theorem kind_shift
    (e : VectorExpr α)
    (k : α) :
    (e.shift k).kind
      =
    if e.kind = .constantVector then .constantVector else .affineVector := by
  cases e <;> rfl

@[simp] theorem length_shift
    (e : VectorExpr α)
    (k : α) :
    (e.shift k).length = e.length := by
  rw [← length_toAffine, toAffine_shift, AffineVector.length_shift, length_toAffine]

end Sums

end VectorExpr

end MathProgram

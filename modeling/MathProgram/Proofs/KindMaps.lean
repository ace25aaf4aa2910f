import MathProgram.Proofs.AlignedSum

/-!
# Maps between kinds of expressions

Multiplying by a factor, dropping the matrix of a quadratic expression and
giving an affine expression a zero matrix all keep the basis, what is moved and
what is added slot by slot.  Such maps keep sums, so that each of these
operations can be done before an addition or after it.

**Results.**
* `Quadratic.scale_add`: a multiple of a sum is the sum of the multiples.
* `Quadratic.affinePart_add`: the affine part of a sum is the sum of the affine
  parts, without any law of arithmetic.
* `Quadratic.ofAffine_add`, `Quadratic.ofAffine_scale`: adding and multiplying affine
  expressions as quadratic ones gives their sum and their multiple as a quadratic one,
  provided that zero stays zero.
-/

namespace MathProgram

section Matrices

variable {α : Type} [CommSemiring α]

theorem map_mul_zipWith_add
    (c d : List α)
    (factor : α) :
    (List.zipWith (· + ·) c d).map (· * factor)
      =
    List.zipWith (· + ·) (c.map (· * factor)) (d.map (· * factor)) := by
  simp only [List.map_zipWith, List.zipWith_map, add_mul]

theorem map_mul_rows_zipWith_add
    (r s : List (List α))
    (factor : α) :
    (List.zipWith (List.zipWith (· + ·)) r s).map (fun row => row.map (· * factor))
      =
    List.zipWith (List.zipWith (· + ·))
      (r.map fun row => row.map (· * factor)) (s.map fun row => row.map (· * factor)) := by
  rw [List.map_zipWith, List.zipWith_map]
  simp only [map_mul_zipWith_add]

end Matrices

section Zeros

variable {α : Type} [Zero α]

namespace DenseMatrix

/-- A zero matrix stays one when it is multiplied. -/
theorem zeros_scale
    [Mul α]
    {factor : α}
    (h : 0 * factor = 0)
    (height cols : Nat) :
    (zeros height cols).scale factor = zeros height cols := by
  refine ext_rows rfl ?_
  have hrows : (zeros height cols : DenseMatrix α).rows.map (List.map (· * factor))
      = (zeros height cols).rows := by
    simp [rows_zeros, h]
  exact hrows

theorem zeros_add
    [Add α]
    (h : (0 : α) + 0 = 0)
    (height cols : Nat) :
    (zeros height cols : DenseMatrix α).add (zeros height cols) rfl = zeros height cols := by
  refine ext_rows rfl ?_
  have hrows : List.zipWith (List.zipWith (· + ·)) (zeros height cols : DenseMatrix α).rows
      (zeros height cols).rows = (zeros height cols).rows := by
    simp [rows_zeros, h]
  exact hrows

end DenseMatrix

variable [Add α]

theorem runningSum_of_forall_eq_zero
    (h : (0 : α) + 0 = 0)
    {xs : List α}
    (hxs : ∀ x ∈ xs, x = 0) :
    runningSum xs = 0 := by
  cases xs with
  | nil => rfl
  | cons x xs =>
    obtain ⟨rfl, hzeros⟩ := List.forall_mem_cons.mp hxs
    exact AbsorbsZero.runningSum_cons ⟨h, h⟩ hzeros

/-- Where there is nothing to move, nothing arrives. -/
theorem remapSquare_zeros
    (h : (0 : α) + 0 = 0)
    (slots : List Nat)
    (width n : Nat) :
    remapSquare slots width (.zeros n n : DenseMatrix α) = .zeros width width := by
  have hzero (x : Nat) : pairSum slots (DenseMatrix.zeros n n : DenseMatrix α).rows x
      = fun _ => 0 := by
    funext y
    apply runningSum_of_forall_eq_zero h
    intro z hz
    obtain ⟨row, hrow, hz⟩ := List.mem_flatMap.mp hz
    obtain ⟨i, _, hi⟩ := exists_slot_of_mem_entriesAt hrow
    obtain ⟨j, _, hj⟩ := exists_slot_of_mem_entriesAt hz
    rw [DenseMatrix.rows_zeros] at hi
    obtain rfl := List.eq_of_mem_replicate (List.mem_of_getElem? hi)
    exact List.eq_of_mem_replicate (List.mem_of_getElem? hj)
  refine DenseMatrix.ext_rows rfl ?_
  rw [rows_remapSquare_eq_map, DenseMatrix.rows_zeros width]
  simp only [hzero, List.map_const', List.length_range]

end Zeros

namespace Quadratic

theorem isMap_scale
    {α : Type}
    [CommSemiring α]
    (factor : α) :
    (slotted α).IsMap (slotted α) (·.scale factor) where
  vars_map _ := rfl
  map_remap := by
    intro e basis slots
    ext1
    · rfl
    · exact (remapSquare_scale slots basis.length e.quad factor).symm
    · exact (remapVector_map_mul slots basis.length e.linear factor).symm
    · rfl
  map_addSlots := by
    intro a b _ _
    ext1
    · rfl
    · exact DenseMatrix.ext_rows rfl (map_mul_rows_zipWith_add a.quad.rows b.quad.rows factor)
    · exact map_mul_zipWith_add a.linear b.linear factor
    · exact add_mul a.constant b.constant factor

theorem scale_add
    {α : Type}
    [CommSemiring α]
    (a b : Quadratic α)
    (factor : α) :
    (a.add b).scale factor = (a.scale factor).add (b.scale factor) := by
  exact (isMap_scale factor).map_add a b

theorem isMap_affinePart
    (α : Type)
    [Zero α]
    [Add α] :
    (slotted α).IsMap (Affine.slotted α) affinePart where
  vars_map _ := rfl
  map_remap _ _ _ := rfl
  map_addSlots _ _ _ _ := rfl

/-- The linear part of a sum is the sum of the linear parts. -/
theorem affinePart_add
    {α : Type}
    [Zero α]
    [Add α]
    (a b : Quadratic α) :
    (a.add b).affinePart = a.affinePart.add b.affinePart := by
  exact (isMap_affinePart α).map_add a b

/-- A zero matrix stays one, whether it is moved or added to another. -/
theorem isMap_ofAffine
    {α : Type}
    [Zero α]
    [Add α]
    (h : (0 : α) + 0 = 0) :
    (Affine.slotted α).IsMap (slotted α) ofAffine where
  vars_map _ := rfl
  map_remap := by
    intro e basis slots
    ext1
    · rfl
    · exact (remapSquare_zeros h slots basis.length e.vars.length).symm
    · rfl
    · rfl
  map_addSlots := by
    intro a b sameLength _
    have hlength : b.vars.length = a.vars.length := sameLength.symm
    ext1
    · rfl
    · refine DenseMatrix.ext_rows rfl ?_
      have hrows : (DenseMatrix.zeros a.vars.length a.vars.length : DenseMatrix α).rows
          = List.zipWith (List.zipWith (· + ·))
              (DenseMatrix.zeros a.vars.length a.vars.length).rows
              (DenseMatrix.zeros b.vars.length b.vars.length).rows := by
        rw [hlength]
        exact (congrArg DenseMatrix.rows (DenseMatrix.zeros_add h _ _)).symm
      exact hrows
    · rfl
    · rfl

/-- Affine expressions are added alike as affine and as quadratic ones. -/
theorem ofAffine_add
    {α : Type}
    [Zero α]
    [Add α]
    (h : (0 : α) + 0 = 0)
    (a b : Affine α) :
    ofAffine (a.add b) = (ofAffine a).add (ofAffine b) := by
  exact (isMap_ofAffine h).map_add a b

theorem ofAffine_scale
    {α : Type}
    [Zero α]
    [Mul α]
    {factor : α}
    (h : 0 * factor = 0)
    (e : Affine α) :
    ofAffine (e.scale factor) = (ofAffine e).scale factor := by
  ext1
  · rfl
  · exact (DenseMatrix.zeros_scale h e.vars.length e.vars.length).symm
  · rfl
  · rfl

end Quadratic

namespace AffineVector

theorem isMap_scale
    {α : Type}
    [CommSemiring α]
    (factor : α) :
    (slotted α).IsMap (slotted α) (·.scale factor) where
  vars_map _ := rfl
  map_remap := by
    intro e basis slots
    ext1
    · rfl
    · exact (remapColumns_scale slots basis.length e.matrix factor).symm
    · rfl
  map_addSlots := by
    intro a b _ _
    ext1
    · rfl
    · exact DenseMatrix.ext_rows rfl (map_mul_rows_zipWith_add a.matrix.rows b.matrix.rows factor)
    · exact map_mul_zipWith_add a.offset b.offset factor

end AffineVector

end MathProgram

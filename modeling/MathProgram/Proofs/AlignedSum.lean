import MathProgram.Proofs.RepeatedSlots
import MathProgram.Proofs.SlottedKind

/-!
# Addition as alignment

The three kinds of expressions over a basis, with what adding entry by entry
means for each of them and the laws that each of them has in exact arithmetic.

**Main statement.**  `add_refines_alignment`: over different sequences of ids a
sum is the aligned sum of its operands, coefficient by coefficient and without
any law of arithmetic.  Over one sequence of ids it keeps the basis, and in exact
arithmetic it is the aligned sum once it is moved to the union.
-/

namespace MathProgram

attribute [ext] Affine Quadratic AffineVector

section Regrouping

/-- Combining lists place by place can be regrouped when combining entries can. -/
theorem zipWith_assoc
    {β : Type}
    {op : β → β → β}
    (hop : ∀ x y z, op (op x y) z = op x (op y z))
    (xs ys zs : List β) :
    List.zipWith op (List.zipWith op xs ys) zs = List.zipWith op xs (List.zipWith op ys zs) := by
  induction xs generalizing ys zs with
  | nil =>
    simp
  | cons x xs ih =>
    cases ys with
    | nil => simp
    | cons y ys =>
      cases zs with
      | nil => simp
      | cons z zs => simp [hop, ih]

end Regrouping

namespace Affine

/-- The entries of `sum` are those of `x` and `y` added up, over one basis. -/
structure EntrywiseSum
    {α : Type}
    [Add α]
    (x y sum : Affine α) :
    Prop where
  vars_left : x.vars = sum.vars
  vars_right : y.vars = sum.vars
  coeffs : sum.coeffs = List.zipWith (· + ·) x.coeffs y.coeffs
  constant : sum.constant = x.constant + y.constant

/-- Affine expressions are moved and added up coefficient by coefficient. -/
def slotted
    (α : Type)
    [Zero α]
    [Add α] :
    SlottedKind (Affine α) where
  vars := vars
  remap := remap
  reindex := reindex
  addSlots := addSlots
  EntrywiseSum := EntrywiseSum
  reindex_eq _ _ := rfl
  vars_remap _ _ _ := rfl
  vars_addSlots _ _ _ := rfl
  entrywiseSum_addSlots _ _ h :=
    { vars_left := rfl, vars_right := h.symm, coeffs := rfl, constant := rfl }

theorem add_eq_slotted
    {α : Type}
    [Zero α]
    [Add α]
    (a b : Affine α) :
    a.add b = (slotted α).add a b := by
  rfl

theorem vars_add
    {α : Type}
    [Zero α]
    [Add α]
    (a b : Affine α) :
    (a.add b).vars = a.vars.merge b.vars := by
  rw [add_eq_slotted]
  exact (slotted α).vars_add

/-- The laws of affine expressions are those of their coefficients. -/
theorem exact_slotted
    (α : Type)
    [CommSemiring α] :
    (slotted α).Exact where
  remap_addSlots := by
    intro a b sameLength target slots
    have hlength : a.coeffs.length = b.coeffs.length := by
      rw [a.length_coeffs, b.length_coeffs]
      exact sameLength
    ext1
    · rfl
    · exact remapVector_zipWith_add hlength slots target.length
    · rfl
  remap_remap := by
    intro e middle target slots next hinside hlength
    have hmoved := remapVector_remapVector hinside target.length e.coeffs
    rw [hlength] at hmoved
    ext1
    · rfl
    · exact hmoved
    · rfl
  remap_self := by
    intro e slots hnodup hslots
    have hnone (slot : Nat) : ¬ e.vars.Repeats slot := Basis.not_repeats_of_nodup hnodup slot
    ext1
    · rfl
    · exact Basis.remapVector_self_of_vanishing hslots e.length_coeffs
        fun slot h => absurd h (hnone slot)
    · rfl
  addSlots_assoc := by
    intro a b c _ _ _ _
    ext1
    · rfl
    · exact zipWith_assoc add_assoc a.coeffs b.coeffs c.coeffs
    · exact add_assoc a.constant b.constant c.constant

end Affine

namespace Quadratic

/-- The entries of `sum` are those of `x` and `y` added up, over one basis. -/
structure EntrywiseSum
    {α : Type}
    [Add α]
    (x y sum : Quadratic α) :
    Prop where
  vars_left : x.vars = sum.vars
  vars_right : y.vars = sum.vars
  quad : sum.quad.rows = List.zipWith (List.zipWith (· + ·)) x.quad.rows y.quad.rows
  linear : sum.linear = List.zipWith (· + ·) x.linear y.linear
  constant : sum.constant = x.constant + y.constant

/-- Quadratic expressions are moved along both axes of their matrix. -/
def slotted
    (α : Type)
    [Zero α]
    [Add α] :
    SlottedKind (Quadratic α) where
  vars := vars
  remap := remap
  reindex := reindex
  addSlots := addSlots
  EntrywiseSum := EntrywiseSum
  reindex_eq _ _ := rfl
  vars_remap _ _ _ := rfl
  vars_addSlots _ _ _ := rfl
  entrywiseSum_addSlots _ _ h :=
    { vars_left := rfl, vars_right := h.symm, quad := rfl, linear := rfl, constant := rfl }

theorem add_eq_slotted
    {α : Type}
    [Zero α]
    [Add α]
    (a b : Quadratic α) :
    a.add b = (slotted α).add a b := by
  rfl

theorem vars_add
    {α : Type}
    [Zero α]
    [Add α]
    (a b : Quadratic α) :
    (a.add b).vars = a.vars.merge b.vars := by
  rw [add_eq_slotted]
  exact (slotted α).vars_add

/-- The laws of quadratic expressions are those of their matrix and their linear part. -/
theorem exact_slotted
    (α : Type)
    [CommSemiring α] :
    (slotted α).Exact where
  remap_addSlots := by
    intro a b sameLength target slots
    have hrows : a.quad.rows.length = b.quad.rows.length := by
      rw [a.quad_rows, b.quad_rows]
      exact sameLength
    have hcols : a.quad.cols = b.quad.cols := by
      rw [a.quad_cols, b.quad_cols]
      exact sameLength
    have hlength : a.linear.length = b.linear.length := by
      rw [a.length_linear, b.length_linear]
      exact sameLength
    ext1
    · rfl
    · exact remapSquare_add hrows hcols slots target.length
    · exact remapVector_zipWith_add hlength slots target.length
    · rfl
  remap_remap := by
    intro e middle target slots next hinside hlength
    have hquad := remapSquare_remapSquare hinside target.length e.quad
    have hlinear := remapVector_remapVector hinside target.length e.linear
    rw [hlength] at hquad hlinear
    ext1
    · rfl
    · exact hquad
    · exact hlinear
    · rfl
  remap_self := by
    intro e slots hnodup hslots
    have hnone (slot : Nat) : ¬ e.vars.Repeats slot := Basis.not_repeats_of_nodup hnodup slot
    ext1
    · rfl
    · exact Basis.remapSquare_self_of_vanishing hslots e.quad_rows e.quad_cols
        fun slot h => absurd h (hnone slot)
    · exact Basis.remapVector_self_of_vanishing hslots e.length_linear
        fun slot h => absurd h (hnone slot)
    · rfl
  addSlots_assoc := by
    intro a b c _ _ _ _
    ext1
    · rfl
    · exact DenseMatrix.ext_rows rfl (zipWith_assoc (zipWith_assoc add_assoc) ..)
    · exact zipWith_assoc add_assoc a.linear b.linear c.linear
    · exact add_assoc a.constant b.constant c.constant

end Quadratic

namespace AffineVector

/-- The entries of `sum` are those of `x` and `y` added up, over one basis. -/
structure EntrywiseSum
    {α : Type}
    [Add α]
    (x y sum : AffineVector α) :
    Prop where
  vars_left : x.vars = sum.vars
  vars_right : y.vars = sum.vars
  matrix : sum.matrix.rows = List.zipWith (List.zipWith (· + ·)) x.matrix.rows y.matrix.rows
  offset : sum.offset = List.zipWith (· + ·) x.offset y.offset

/-- Affine vectors are moved along the columns of their matrix. -/
def slotted
    (α : Type)
    [Zero α]
    [Add α] :
    SlottedKind (AffineVector α) where
  vars := vars
  remap := remap
  reindex := reindex
  addSlots := addSlots
  EntrywiseSum := EntrywiseSum
  reindex_eq _ _ := rfl
  vars_remap _ _ _ := rfl
  vars_addSlots _ _ _ := rfl
  entrywiseSum_addSlots _ _ h :=
    { vars_left := rfl, vars_right := h.symm, matrix := rfl, offset := rfl }

theorem add_of_length_eq
    {α : Type}
    [Zero α]
    [Add α]
    {a b : AffineVector α}
    (h : a.length = b.length) :
    a.add b = .ok ((slotted α).add a b) := by
  by_cases hsame : a.vars.slotIds = b.vars.slotIds
  · rw [add_of_slotIds_eq h hsame, (slotted α).add_of_slotIds_eq hsame]
    rfl
  · rw [add_of_slotIds_ne h hsame, (slotted α).add_of_slotIds_ne hsame]
    rfl

theorem vars_add
    {α : Type}
    [Zero α]
    [Add α]
    (a b : AffineVector α) :
    ((slotted α).add a b).vars = a.vars.merge b.vars := by
  exact (slotted α).vars_add

/-- The laws of affine vectors are those of the rows of their matrix. -/
theorem exact_slotted
    (α : Type)
    [CommSemiring α] :
    (slotted α).Exact where
  remap_addSlots := by
    intro a b sameLength target slots
    have hcols : a.matrix.cols = b.matrix.cols := by
      rw [a.matrix_cols, b.matrix_cols]
      exact sameLength
    ext1
    · rfl
    · exact remapColumns_add hcols slots target.length
    · rfl
  remap_remap := by
    intro e middle target slots next hinside hlength
    have hmatrix := remapColumns_remapColumns hinside target.length e.matrix
    rw [hlength] at hmatrix
    ext1
    · rfl
    · exact hmatrix
    · rfl
  remap_self := by
    intro e slots hnodup hslots
    have hnone (slot : Nat) : ¬ e.vars.Repeats slot := Basis.not_repeats_of_nodup hnodup slot
    ext1
    · rfl
    · exact Basis.remapColumns_self_of_vanishing hslots e.matrix_cols
        fun slot h => absurd h (hnone slot)
    · rfl
  addSlots_assoc := by
    intro a b c _ _ _ _
    ext1
    · rfl
    · exact DenseMatrix.ext_rows rfl (zipWith_assoc (zipWith_assoc add_assoc) ..)
    · exact zipWith_assoc add_assoc a.offset b.offset c.offset

end AffineVector

/--
Addition refines alignment.  Over different sequences of ids it gives the aligned
sum of its operands, for every type of coefficients; over one sequence it keeps
the basis, and in exact arithmetic the sum realigns to the aligned one.
-/
theorem add_refines_alignment :
    (∀ (α : Type) [Zero α] [Add α],
      (∀ a b : Affine α, (Affine.slotted α).IsSum a b (a.add b)) ∧
      (∀ a b : Quadratic α, (Quadratic.slotted α).IsSum a b (a.add b)) ∧
      ∀ a b : AffineVector α, a.length = b.length →
        ∃ sum, a.add b = .ok sum ∧ (AffineVector.slotted α).IsSum a b sum)
      ∧
    (∀ a b : Affine ℚ, a.vars.slotIds = b.vars.slotIds →
      (Affine.slotted ℚ).Realigns a b (a.add b)) ∧
    (∀ a b : Quadratic ℚ, a.vars.slotIds = b.vars.slotIds →
      (Quadratic.slotted ℚ).Realigns a b (a.add b)) ∧
    ∀ a b : AffineVector ℚ, a.length = b.length → a.vars.slotIds = b.vars.slotIds →
      ∃ sum, a.add b = .ok sum ∧ (AffineVector.slotted ℚ).Realigns a b sum := by
  refine ⟨?_, ?_, ?_, ?_⟩
  · intro α _ _
    refine ⟨?_, ?_, ?_⟩
    · intro a b
      rw [Affine.add_eq_slotted]
      exact (Affine.slotted α).isSum_add
    · intro a b
      rw [Quadratic.add_eq_slotted]
      exact (Quadratic.slotted α).isSum_add
    · intro a b hlength
      exact ⟨_, AffineVector.add_of_length_eq hlength, (AffineVector.slotted α).isSum_add⟩
  · intro a b h
    rw [Affine.add_eq_slotted]
    exact (Affine.exact_slotted ℚ).realigns_add _ a b
  · intro a b h
    rw [Quadratic.add_eq_slotted]
    exact (Quadratic.exact_slotted ℚ).realigns_add _ a b
  · intro a b hlength h
    exact ⟨_, AffineVector.add_of_length_eq hlength,
      (AffineVector.exact_slotted ℚ).realigns_add _ a b⟩

end MathProgram

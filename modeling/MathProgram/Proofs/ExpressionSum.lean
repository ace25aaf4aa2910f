import MathProgram.Proofs.ScalarAlgebra
import MathProgram.Proofs.VectorSum

/-!
# When a sum is defined

Scalar expressions are always added, vectors when they have one length, and a
constant is added to every component of a vector on either side of it.  All
other sums are refused.

**Graph.**  `Expression.IsSum a b s` has one rule for each of these ways, and no
more: addition succeeds with `s` exactly when `IsSum a b s` holds.  What is said
about sums afterwards is said rule by rule.

**Results.**
* `Expression.add_eq_ok_iff`: the graph is that of addition.
* `Expression.add_eq_error_iff`: which sums are refused, and for what cause.
-/

namespace MathProgram

section Sums

variable {α : Type}

theorem ScalarExpr.kind_eq_constant_iff
    {a : ScalarExpr α} :
    a.kind = .constant ↔ ∃ k, a = constant k := by
  cases a <;> simp [kind]

variable [Zero α] [One α] [Add α]

/-- Only constants add up to a constant. -/
theorem ScalarExpr.add_eq_constant_iff
    {a b : ScalarExpr α}
    {s : α} :
    a.add b = constant s ↔ ∃ j k, a = constant j ∧ b = constant k ∧ j + k = s := by
  constructor
  · intro h
    rcases add_routes a b with ⟨j, k, ha, hb, hadd⟩ | ⟨_, _, _, _, _, hadd⟩ | ⟨_, hadd⟩
    · exact ⟨j, k, ha, hb, ScalarExpr.constant.inj (hadd.symm.trans h)⟩
    · cases hadd.symm.trans h
    · cases hadd.symm.trans h
  · rintro ⟨j, k, rfl, rfl, rfl⟩
    rfl

theorem ScalarExpr.add_of_toAffine?
    {a b : ScalarExpr α}
    {e f : Affine α}
    (he : a.toAffine? = some e)
    (hf : b.toAffine? = some f)
    (hdegree : max a.degree b.degree = 1) :
    a.add b = affine (e.add f) := by
  rcases add_routes a b with ⟨j, k, rfl, rfl, _⟩ | ⟨_, _, he', hf', _, hadd⟩ | ⟨htwo, _⟩
  · cases hdegree
  · rw [hadd, Option.some.inj (he.symm.trans he'), Option.some.inj (hf.symm.trans hf')]
  · cases hdegree.symm.trans htwo

theorem ScalarExpr.add_of_degree_eq_two
    {a b : ScalarExpr α}
    (hdegree : max a.degree b.degree = 2) :
    a.add b = quadratic (a.toQuadratic.add b.toQuadratic) := by
  rcases add_routes a b with ⟨j, k, rfl, rfl, _⟩ | ⟨_, _, _, _, hone, _⟩ | ⟨_, hadd⟩
  · cases hdegree
  · cases hdegree.symm.trans hone
  · exact hadd

namespace Expression

/-- The sums that are defined. -/
inductive IsSum : Expression α → Expression α → Expression α → Prop
  | scalars
      (a b : ScalarExpr α) :
      IsSum (scalar a) (scalar b) (scalar (a.add b))
  | vectors
      {a b : VectorExpr α}
      (sameLength : a.length = b.length) :
      IsSum (vector a) (vector b) (vector (a.sum b))
  | constantRight
      (a : VectorExpr α)
      (k : α) :
      IsSum (vector a) (scalar (.constant k)) (vector (a.shift k))
  | constantLeft
      (k : α)
      (b : VectorExpr α) :
      IsSum (scalar (.constant k)) (vector b) (vector (b.shift k))

theorem isSum_scalar_scalar_iff
    {a b : ScalarExpr α}
    {s : Expression α} :
    IsSum (scalar a) (scalar b) s ↔ s = scalar (a.add b) := by
  constructor
  · rintro ⟨⟩
    rfl
  · rintro rfl
    exact .scalars a b

theorem isSum_vector_vector_iff
    {a b : VectorExpr α}
    {s : Expression α} :
    IsSum (vector a) (vector b) s ↔ a.length = b.length ∧ s = vector (a.sum b) := by
  constructor
  · rintro (_ | sameLength)
    exact ⟨sameLength, rfl⟩
  · rintro ⟨sameLength, rfl⟩
    exact .vectors sameLength

theorem isSum_vector_scalar_iff
    {a : VectorExpr α}
    {b : ScalarExpr α}
    {s : Expression α} :
    IsSum (vector a) (scalar b) s ↔ ∃ k, b = .constant k ∧ s = vector (a.shift k) := by
  constructor
  · rintro (_ | _ | ⟨_, k⟩)
    exact ⟨k, rfl, rfl⟩
  · rintro ⟨k, rfl, rfl⟩
    exact .constantRight a k

theorem isSum_scalar_vector_iff
    {a : ScalarExpr α}
    {b : VectorExpr α}
    {s : Expression α} :
    IsSum (scalar a) (vector b) s ↔ ∃ k, a = .constant k ∧ s = vector (b.shift k) := by
  constructor
  · rintro (_ | _ | _ | ⟨k⟩)
    exact ⟨k, rfl, rfl⟩
  · rintro ⟨k, rfl, rfl⟩
    exact .constantLeft k b

/-- Addition succeeds exactly on its graph. -/
theorem add_eq_ok_iff
    {a b s : Expression α} :
    a.add b = .ok s ↔ IsSum a b s := by
  cases a with
  | scalar a =>
    cases b with
    | scalar b =>
      rw [isSum_scalar_scalar_iff]
      simp [add, eq_comm]
    | vector b =>
      rw [isSum_scalar_vector_iff]
      cases a <;> simp [add, eq_comm]
  | vector a =>
    cases b with
    | scalar b =>
      rw [isSum_vector_scalar_iff]
      cases b <;> simp [add, eq_comm]
    | vector b =>
      rw [isSum_vector_vector_iff]
      by_cases h : a.length = b.length
      · simp [add, VectorExpr.add_of_length_eq h, h, Except.map, eq_comm]
      · simp [add, VectorExpr.add_of_length_ne h, h, Except.map]

theorem IsSum.unique
    {a b s t : Expression α}
    (hs : IsSum a b s)
    (ht : IsSum a b t) :
    s = t := by
  exact Except.ok.inj ((add_eq_ok_iff.mpr hs).symm.trans (add_eq_ok_iff.mpr ht))

/-- Lengths that differ are refused, and scalar expressions other than constants beside a vector. -/
theorem add_eq_error_iff
    {a b : Expression α}
    {cause : ExprError} :
    a.add b = .error cause
      ↔
    (∃ u w, a = vector u ∧ b = vector w ∧ u.length ≠ w.length ∧
      cause = .dimensionMismatch .addedLengths u.length w.length)
      ∨
    (((∃ u t, a = vector u ∧ b = scalar t ∧ t.kind ≠ .constant) ∨
        ∃ t u, a = scalar t ∧ b = vector u ∧ t.kind ≠ .constant) ∧
      cause = .unsupportedOperands .plus a.kind b.kind) := by
  cases a with
  | scalar a =>
    cases b with
    | scalar b => simp [add]
    | vector b => cases a <;> simp [add, ScalarExpr.kind, eq_comm]
  | vector a =>
    cases b with
    | scalar b => cases b <;> simp [add, ScalarExpr.kind, eq_comm]
    | vector b =>
      by_cases h : a.length = b.length
      · simp [add, VectorExpr.add_of_length_eq h, h, Except.map]
      · simp [add, VectorExpr.add_of_length_ne h, h, Except.map, eq_comm]

end Expression

end Sums

end MathProgram

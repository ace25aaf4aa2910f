import MathProgram.Proofs.ExpressionSum
import MathProgram.Proofs.KindMaps

/-!
# Regrouping sums

In exact arithmetic a sum of three does not depend on its grouping, and a
multiple of a sum is the sum of the multiples.  Both hold for the expressions
themselves, with their kinds, their bases slot by slot and their coefficients,
and not only for the values they have.

**Routes.**  Kinds promote, a constant beside a vector leaves the basis alone,
and operands over one sequence of ids are never folded.  Scalar expressions are
compared as quadratic ones and vectors as affine ones, where sums are those of
one kind; their kinds are compared separately.

**Main statement.**  `Expression.add_regroups`.
-/

namespace MathProgram

section Promotion

variable {α : Type} [Zero α] [One α]

theorem ScalarExpr.toQuadratic_of_toAffine?
    {a : ScalarExpr α}
    {e : Affine α}
    (h : a.toAffine? = some e) :
    a.toQuadratic = .ofAffine e := by
  cases a with
  | quadratic e => cases h
  | _ =>
    cases h
    rfl

variable [Add α]

/-- On every route a sum is the sum of the quadratic expressions that the operands stand for. -/
theorem ScalarExpr.toQuadratic_add
    (h : (0 : α) + 0 = 0)
    (a b : ScalarExpr α) :
    (a.add b).toQuadratic = a.toQuadratic.add b.toQuadratic := by
  rcases add_routes a b with ⟨j, k, rfl, rfl, hadd⟩ | ⟨e, f, he, hf, _, hadd⟩ | ⟨_, hadd⟩
  · rw [hadd]
    exact Quadratic.ofAffine_add h (.ofConstant j) (.ofConstant k)
  · rw [hadd, toQuadratic_of_toAffine? he, toQuadratic_of_toAffine? hf]
    exact Quadratic.ofAffine_add h e f
  · rw [hadd]
    rfl

/-- Summands can be made quadratic before they are added one after another, or their total after. -/
theorem ScalarExpr.toQuadratic_foldl_add
    (h : (0 : α) + 0 = 0)
    (items : List (ScalarExpr α))
    (total : ScalarExpr α) :
    (items.foldl add total).toQuadratic
      =
    (items.map toQuadratic).foldl Quadratic.add total.toQuadratic := by
  induction items generalizing total with
  | nil =>
    rfl
  | cons item items ih =>
    rw [List.foldl_cons, ih, toQuadratic_add h, List.map_cons, List.foldl_cons]

end Promotion

section Exact

variable {α : Type} [CommSemiring α]

namespace ScalarExpr

/-- The kind of a sum of a given degree. -/
def sumKind : Nat → ExprKind
  | 0 => .constant
  | 1 => .affine
  | _ => .quadratic

theorem kind_add
    (a b : ScalarExpr α) :
    (a.add b).kind = sumKind (max a.degree b.degree) := by
  rcases add_routes a b with ⟨j, k, rfl, rfl, hadd⟩ | ⟨_, _, _, _, hdegree, hadd⟩ | ⟨hdegree, hadd⟩
  · rw [hadd]
    rfl
  · rw [hadd, hdegree]
    rfl
  · rw [hadd, hdegree]
    rfl

/-- A sum is never a bare variable, so that a multiple of it has its kind. -/
theorem kind_scale_add
    (a b : ScalarExpr α)
    (factor : α) :
    ((a.add b).scale factor).kind = (a.add b).kind := by
  rcases add_routes a b with ⟨_, _, _, _, hadd⟩ | ⟨_, _, _, _, _, hadd⟩ | ⟨_, hadd⟩
  · rw [hadd]
    rfl
  · rw [hadd]
    rfl
  · rw [hadd]
    rfl

/-- A scalar expression is known from its kind and from the quadratic one it stands for. -/
theorem ext_toQuadratic
    {a b : ScalarExpr α}
    (hkind : a.kind = b.kind)
    (h : a.toQuadratic = b.toQuadratic) :
    a = b := by
  cases a with
  | constant j =>
    cases b with
    | constant k => exact congrArg constant (congrArg Quadratic.constant h)
    | var _ => cases hkind
    | affine _ => cases hkind
    | quadratic _ => cases hkind
  | var v =>
    cases b with
    | constant _ => cases hkind
    | var w =>
      have hvars : [v] = [w] := congrArg Quadratic.vars h
      exact congrArg var (List.singleton_inj.mp hvars)
    | affine _ => cases hkind
    | quadratic _ => cases hkind
  | affine e =>
    cases b with
    | constant _ => cases hkind
    | var _ => cases hkind
    | affine f => exact congrArg affine (congrArg Quadratic.affinePart h)
    | quadratic _ => cases hkind
  | quadratic e =>
    cases b with
    | constant _ => cases hkind
    | var _ => cases hkind
    | affine _ => cases hkind
    | quadratic f => exact congrArg quadratic h

theorem toQuadratic_scale
    (a : ScalarExpr α)
    (factor : α) :
    (a.scale factor).toQuadratic = a.toQuadratic.scale factor := by
  cases a with
  | constant k => exact Quadratic.ofAffine_scale (zero_mul factor) (.ofConstant k)
  | var v => exact Quadratic.ofAffine_scale (zero_mul factor) (.ofVariable v)
  | affine e => exact Quadratic.ofAffine_scale (zero_mul factor) e
  | quadratic e => rfl

protected theorem add_assoc
    (a b c : ScalarExpr α) :
    (a.add b).add c = a.add (b.add c) := by
  apply ext_toQuadratic
  · rw [kind_add, kind_add, degree_add, degree_add, max_assoc]
  · have hadd := toQuadratic_add (add_zero (0 : α))
    rw [hadd, hadd, hadd, hadd]
    exact (Quadratic.exact_slotted α).add_assoc _ _ _ _

theorem scale_add
    (a b : ScalarExpr α)
    (factor : α) :
    (a.add b).scale factor = (a.scale factor).add (b.scale factor) := by
  apply ext_toQuadratic
  · rw [kind_scale_add, kind_add, kind_add, degree_scale, degree_scale]
  · have hadd := toQuadratic_add (add_zero (0 : α))
    rw [toQuadratic_scale, hadd, hadd, toQuadratic_scale, toQuadratic_scale]
    exact Quadratic.scale_add _ _ _

end ScalarExpr

namespace AffineVector

/-- Operands with other offsets have the same sum, up to what their offsets sum up to. -/
theorem add_eq_shift
    {a b f g : AffineVector α}
    (hf : a.SameRows f)
    (hg : b.SameRows g)
    {k : α}
    (hoffset :
      List.zipWith (· + ·) f.offset g.offset
        =
      (List.zipWith (· + ·) a.offset b.offset).map (· + k)) :
    (slotted α).add f g = ((slotted α).add a b).shift k := by
  obtain ⟨hvars, hmatrix⟩ := respects_sameRows.add hf hg
  rw [← offset_add f g, ← offset_add a b] at hoffset
  ext1
  · exact hvars
  · exact hmatrix
  · exact hoffset

/-- A number that is added to one operand is added to the sum. -/
theorem add_shift_left
    (a b : AffineVector α)
    (k : α) :
    (slotted α).add (a.shift k) b = ((slotted α).add a b).shift k := by
  apply add_eq_shift (a.sameRows_shift k) (.refl b)
  have hoffset : List.zipWith (· + ·) (a.offset.map (· + k)) b.offset
      = (List.zipWith (· + ·) a.offset b.offset).map (· + k) := by
    rw [List.zipWith_map_left, List.map_zipWith]
    simp only [add_right_comm]
  exact hoffset

theorem add_shift_right
    (a b : AffineVector α)
    (k : α) :
    (slotted α).add a (b.shift k) = ((slotted α).add a b).shift k := by
  apply add_eq_shift (.refl a) (b.sameRows_shift k)
  have hoffset : List.zipWith (· + ·) a.offset (b.offset.map (· + k))
      = (List.zipWith (· + ·) a.offset b.offset).map (· + k) := by
    rw [List.zipWith_map_right, List.map_zipWith]
    simp only [add_assoc]
  exact hoffset

theorem shift_shift
    (e : AffineVector α)
    (j k : α) :
    (e.shift j).shift k = e.shift (j + k) := by
  ext1
  · rfl
  · rfl
  · have hoffset : (e.offset.map (· + j)).map (· + k) = e.offset.map (· + (j + k)) := by
      simp
    exact hoffset

theorem scale_shift
    (e : AffineVector α)
    (k factor : α) :
    (e.shift k).scale factor = (e.scale factor).shift (k * factor) := by
  ext1
  · rfl
  · rfl
  · have hoffset : (e.offset.map (· + k)).map (· * factor)
        = (e.offset.map (· * factor)).map (· + k * factor) := by
      simp [add_mul]
    exact hoffset

theorem ofConstants_scale
    (values : List α)
    (factor : α) :
    ofConstants (values.map (· * factor)) = (ofConstants values).scale factor := by
  have hmatrix : DenseMatrix.zeros (values.map (· * factor)).length 0
      = (DenseMatrix.zeros values.length 0).scale factor := by
    rw [DenseMatrix.zeros_scale (zero_mul factor), List.length_map]
  ext1
  · rfl
  · exact hmatrix
  · rfl

end AffineVector

namespace VectorExpr

theorem toAffine_scale
    (e : VectorExpr α)
    (factor : α) :
    (e.scale factor).toAffine = e.toAffine.scale factor := by
  cases e with
  | constant values => exact AffineVector.ofConstants_scale values factor
  | vars slots => rfl
  | affine e => rfl

theorem kind_scale
    (e : VectorExpr α)
    (factor : α) :
    (e.scale factor).kind
      =
    if e.kind = .constantVector then .constantVector else .affineVector := by
  cases e <;> rfl

@[simp] theorem length_scale
    (e : VectorExpr α)
    (factor : α) :
    (e.scale factor).length = e.length := by
  rw [← length_toAffine, toAffine_scale, AffineVector.length_scale, length_toAffine]

theorem sum_assoc
    (a b c : VectorExpr α) :
    (a.sum b).sum c = a.sum (b.sum c) := by
  apply ext_toAffine
  · simp only [kind_sum]
    grind
  · simp only [toAffine_sum]
    exact (AffineVector.exact_slotted α).add_assoc _ _ _ _

theorem sum_shift_left
    (a b : VectorExpr α)
    (k : α) :
    (a.shift k).sum b = (a.sum b).shift k := by
  apply ext_toAffine
  · simp only [kind_sum, kind_shift]
    grind
  · simp only [toAffine_sum, toAffine_shift]
    exact AffineVector.add_shift_left _ _ k

theorem sum_shift_right
    (a b : VectorExpr α)
    (k : α) :
    a.sum (b.shift k) = (a.sum b).shift k := by
  apply ext_toAffine
  · simp only [kind_sum, kind_shift]
    grind
  · simp only [toAffine_sum, toAffine_shift]
    exact AffineVector.add_shift_right _ _ k

theorem shift_shift
    (e : VectorExpr α)
    (j k : α) :
    (e.shift j).shift k = e.shift (j + k) := by
  apply ext_toAffine
  · simp only [kind_shift]
    grind
  · simp only [toAffine_shift]
    exact AffineVector.shift_shift _ j k

theorem scale_sum
    (a b : VectorExpr α)
    (factor : α) :
    (a.sum b).scale factor = (a.scale factor).sum (b.scale factor) := by
  apply ext_toAffine
  · simp only [kind_sum, kind_scale]
    grind
  · simp only [toAffine_sum, toAffine_scale]
    exact (AffineVector.isMap_scale factor).map_add _ _

theorem scale_shift
    (e : VectorExpr α)
    (k factor : α) :
    (e.shift k).scale factor = (e.scale factor).shift (k * factor) := by
  apply ext_toAffine
  · rw [kind_scale, kind_shift, kind_shift, kind_scale]
  · simp only [toAffine_shift, toAffine_scale]
    exact AffineVector.scale_shift _ k factor

end VectorExpr

namespace Expression

/-- Grouped to the left, a sum of three can be grouped to the right. -/
theorem IsSum.assoc
    {a b c ab s : Expression α}
    (hab : IsSum a b ab)
    (h : IsSum ab c s) :
    ∃ bc, IsSum b c bc ∧ IsSum a bc s := by
  cases hab with
  | scalars a b =>
    cases c with
    | scalar c =>
      obtain rfl := isSum_scalar_scalar_iff.mp h
      refine ⟨_, .scalars b c, ?_⟩
      rw [ScalarExpr.add_assoc]
      exact .scalars a (b.add c)
    | vector c =>
      -- Only a sum of constants goes beside a vector, and each of them does so alone.
      obtain ⟨_, hconstant, rfl⟩ := isSum_scalar_vector_iff.mp h
      obtain ⟨i, j, rfl, rfl, rfl⟩ := ScalarExpr.add_eq_constant_iff.mp hconstant
      refine ⟨_, .constantLeft j c, ?_⟩
      rw [add_comm i j, ← VectorExpr.shift_shift]
      exact .constantLeft i (c.shift j)
  | @vectors a b hlength =>
    cases c with
    | scalar c =>
      obtain ⟨k, rfl, rfl⟩ := isSum_vector_scalar_iff.mp h
      refine ⟨_, .constantRight b k, ?_⟩
      rw [← VectorExpr.sum_shift_right]
      exact .vectors (by rw [VectorExpr.length_shift, hlength])
    | vector c =>
      obtain ⟨hlength', rfl⟩ := isSum_vector_vector_iff.mp h
      rw [VectorExpr.length_sum hlength, hlength] at hlength'
      refine ⟨_, .vectors hlength', ?_⟩
      rw [VectorExpr.sum_assoc]
      exact .vectors (by rw [VectorExpr.length_sum hlength', hlength])
  | constantRight a k =>
    cases c with
    | scalar c =>
      obtain ⟨j, rfl, rfl⟩ := isSum_vector_scalar_iff.mp h
      refine ⟨_, .scalars (.constant k) (.constant j), ?_⟩
      rw [VectorExpr.shift_shift]
      exact .constantRight a (k + j)
    | vector c =>
      obtain ⟨hlength, rfl⟩ := isSum_vector_vector_iff.mp h
      rw [VectorExpr.length_shift] at hlength
      refine ⟨_, .constantLeft k c, ?_⟩
      rw [VectorExpr.sum_shift_left, ← VectorExpr.sum_shift_right]
      exact .vectors (by rw [VectorExpr.length_shift, hlength])
  | constantLeft k b =>
    cases c with
    | scalar c =>
      obtain ⟨j, rfl, rfl⟩ := isSum_vector_scalar_iff.mp h
      refine ⟨_, .constantRight b j, ?_⟩
      rw [VectorExpr.shift_shift, add_comm k j, ← VectorExpr.shift_shift]
      exact .constantLeft k (b.shift j)
    | vector c =>
      obtain ⟨hlength, rfl⟩ := isSum_vector_vector_iff.mp h
      rw [VectorExpr.length_shift] at hlength
      refine ⟨_, .vectors hlength, ?_⟩
      rw [VectorExpr.sum_shift_left]
      exact .constantLeft k (b.sum c)

/-- Grouped to the right, a sum of three can be grouped to the left. -/
theorem IsSum.assoc_symm
    {a b c bc s : Expression α}
    (hbc : IsSum b c bc)
    (h : IsSum a bc s) :
    ∃ ab, IsSum a b ab ∧ IsSum ab c s := by
  cases hbc with
  | scalars b c =>
    cases a with
    | scalar a =>
      obtain rfl := isSum_scalar_scalar_iff.mp h
      refine ⟨_, .scalars a b, ?_⟩
      rw [← ScalarExpr.add_assoc]
      exact .scalars (a.add b) c
    | vector a =>
      obtain ⟨_, hconstant, rfl⟩ := isSum_vector_scalar_iff.mp h
      obtain ⟨j, k, rfl, rfl, rfl⟩ := ScalarExpr.add_eq_constant_iff.mp hconstant
      refine ⟨_, .constantRight a j, ?_⟩
      rw [← VectorExpr.shift_shift]
      exact .constantRight (a.shift j) k
  | @vectors b c hlength =>
    cases a with
    | scalar a =>
      obtain ⟨k, rfl, rfl⟩ := isSum_scalar_vector_iff.mp h
      refine ⟨_, .constantLeft k b, ?_⟩
      rw [← VectorExpr.sum_shift_left]
      exact .vectors (by rw [VectorExpr.length_shift, hlength])
    | vector a =>
      obtain ⟨hlength', rfl⟩ := isSum_vector_vector_iff.mp h
      rw [VectorExpr.length_sum hlength] at hlength'
      refine ⟨_, .vectors hlength', ?_⟩
      rw [← VectorExpr.sum_assoc]
      exact .vectors (by rw [VectorExpr.length_sum hlength', hlength', hlength])
  | constantRight b k =>
    cases a with
    | scalar a =>
      obtain ⟨j, rfl, rfl⟩ := isSum_scalar_vector_iff.mp h
      refine ⟨_, .constantLeft j b, ?_⟩
      rw [VectorExpr.shift_shift, add_comm k j, ← VectorExpr.shift_shift]
      exact .constantRight (b.shift j) k
    | vector a =>
      obtain ⟨hlength, rfl⟩ := isSum_vector_vector_iff.mp h
      rw [VectorExpr.length_shift] at hlength
      refine ⟨_, .vectors hlength, ?_⟩
      rw [VectorExpr.sum_shift_right]
      exact .constantRight (a.sum b) k
  | constantLeft k c =>
    cases a with
    | scalar a =>
      obtain ⟨j, rfl, rfl⟩ := isSum_scalar_vector_iff.mp h
      refine ⟨_, .scalars (.constant j) (.constant k), ?_⟩
      rw [VectorExpr.shift_shift, add_comm k j]
      exact .constantLeft (j + k) c
    | vector a =>
      obtain ⟨hlength, rfl⟩ := isSum_vector_vector_iff.mp h
      rw [VectorExpr.length_shift] at hlength
      refine ⟨_, .constantRight a k, ?_⟩
      rw [VectorExpr.sum_shift_right, ← VectorExpr.sum_shift_left]
      exact .vectors (by rw [VectorExpr.length_shift, hlength])

/-- A multiple of a sum is the sum of the multiples. -/
theorem IsSum.scale
    {a b s : Expression α}
    (h : IsSum a b s)
    (factor : α) :
    IsSum (a.scale factor) (b.scale factor) (s.scale factor) := by
  cases h with
  | scalars a b =>
    have hsum := IsSum.scalars (a.scale factor) (b.scale factor)
    rwa [← ScalarExpr.scale_add] at hsum
  | @vectors a b hlength =>
    have hscaled : (a.scale factor).length = (b.scale factor).length := by
      rw [VectorExpr.length_scale, VectorExpr.length_scale, hlength]
    have hsum := IsSum.vectors hscaled
    rwa [← VectorExpr.scale_sum] at hsum
  | constantRight a k =>
    have hsum := IsSum.constantRight (a.scale factor) (k * factor)
    rwa [← VectorExpr.scale_shift] at hsum
  | constantLeft k b =>
    have hsum := IsSum.constantLeft (k * factor) (b.scale factor)
    rwa [← VectorExpr.scale_shift] at hsum

/-- Multiples can be added only where the expressions themselves can. -/
theorem IsSum.exists_of_scale
    {a b t : Expression α}
    {factor : α}
    (h : IsSum (a.scale factor) (b.scale factor) t) :
    ∃ s, IsSum a b s := by
  cases a with
  | scalar a =>
    cases b with
    | scalar b => exact ⟨_, .scalars a b⟩
    | vector b =>
      obtain ⟨k, hconstant, _⟩ := isSum_scalar_vector_iff.mp h
      cases a with
      | constant j => exact ⟨_, .constantLeft j b⟩
      | var _ => cases hconstant
      | affine _ => cases hconstant
      | quadratic _ => cases hconstant
  | vector a =>
    cases b with
    | scalar b =>
      obtain ⟨k, hconstant, _⟩ := isSum_vector_scalar_iff.mp h
      cases b with
      | constant j => exact ⟨_, .constantRight a j⟩
      | var _ => cases hconstant
      | affine _ => cases hconstant
      | quadratic _ => cases hconstant
    | vector b =>
      obtain ⟨hlength, _⟩ := isSum_vector_vector_iff.mp h
      rw [VectorExpr.length_scale, VectorExpr.length_scale] at hlength
      exact ⟨_, .vectors hlength⟩

/--
Sums can be regrouped and multiplied term by term.  Either way is defined exactly
where the other is, and gives the same expression: the same kind, the same
handles slot by slot, the same coefficients and constants.
-/
theorem add_regroups
    (a b c : Expression α)
    (factor : α) :
    (∀ s, (a.add b >>= fun ab => ab.add c) = .ok s ↔ (b.add c >>= fun bc => a.add bc) = .ok s)
      ∧
    ∀ s, (a.add b).map (fun ab => ab.scale factor) = .ok s
      ↔ (a.scale factor).add (b.scale factor) = .ok s := by
  refine ⟨?_, ?_⟩
  · intro s
    rw [bind_eq_ok_iff, bind_eq_ok_iff]
    simp only [add_eq_ok_iff]
    constructor
    · rintro ⟨ab, hab, h⟩
      exact hab.assoc h
    · rintro ⟨bc, hbc, h⟩
      exact hbc.assoc_symm h
  · intro s
    rw [map_eq_ok_iff]
    simp only [add_eq_ok_iff]
    constructor
    · rintro ⟨ab, hab, rfl⟩
      exact hab.scale factor
    · intro h
      obtain ⟨ab, hab⟩ := h.exists_of_scale
      exact ⟨ab, hab, (hab.scale factor).unique h⟩

end Expression

end Exact

end MathProgram

import MathProgram.Proofs.Regrouping

/-!
# Sums and multiples across shapes

The value of a vector at a place is that of its component there, and a scalar
expression has its own value at every place.  Vector kinds hold their components
in different ways: as numbers, as bare variables or as rows of a matrix.  The
value does not depend on it, because each kind becomes an affine vector without
changing any component.  A vector of variables becomes the identity matrix, even
where it repeats a variable.

**Results.**
* `VectorExpr.valueAt_toAffine`: an expression and the affine vector it stands for
  have one value at every place and fail alike beyond the last one.
* `VectorExpr.valueAt_sum`, `VectorExpr.valueAt_shift`, `VectorExpr.valueAt_scale`:
  values of sums and multiples, place by place.
* `Expression.add_evaluates_place_by_place`: when sums across shapes are defined,
  how the others fail, and what they are worth.
-/

namespace MathProgram

section Values

variable {α : Type} [CommRing α]

namespace AffineVector

/-- The value at a place. -/
def valueAt
    (e : AffineVector α)
    (i : Nat)
    (x : Assignment α) :
    Except ExprError α :=
  (e.component i).map fun s => s.value x

theorem valueAt_of_length_le
    {e : AffineVector α}
    {i : Nat}
    (h : e.length ≤ i)
    (x : Assignment α) :
    e.valueAt i x = .error (.dimensionMismatch .rowIndex e.length i) := by
  rw [valueAt, component_of_length_le h]
  rfl

/-- Rows are added, and their values with them. -/
theorem valueAt_add
    {a b : AffineVector α}
    (h : a.length = b.length)
    {i : Nat}
    (hi : i < a.length)
    (x : Assignment α) :
    ∃ p q, a.valueAt i x = .ok p ∧ b.valueAt i x = .ok q ∧
      ((slotted α).add a b).valueAt i x = .ok (p + q) := by
  obtain ⟨s, hs⟩ := exists_component hi
  obtain ⟨t, ht⟩ := exists_component (h ▸ hi)
  refine ⟨s.value x, t.value x, ?_, ?_, ?_⟩
  · rw [valueAt, hs]
    rfl
  · rw [valueAt, ht]
    rfl
  · rw [valueAt, component_add hs ht]
    exact congrArg Except.ok (s.value_add t x)

/-- What is done to every component is done to the value at every place. -/
theorem valueAt_eq_map
    {e f : AffineVector α}
    (hlength : f.length = e.length)
    {g : α → α}
    {x : Assignment α}
    (h : ∀ i s, e.component i = .ok s → ∃ t, f.component i = .ok t ∧ t.value x = g (s.value x))
    (i : Nat) :
    f.valueAt i x = (e.valueAt i x).map g := by
  by_cases hi : i < e.length
  · obtain ⟨s, hs⟩ := exists_component hi
    obtain ⟨t, ht, hvalue⟩ := h i s hs
    rw [valueAt, valueAt, hs, ht]
    exact congrArg Except.ok hvalue
  · rw [valueAt_of_length_le (Nat.not_lt.mp hi), valueAt_of_length_le (by omega), hlength]
    rfl

theorem valueAt_shift
    (e : AffineVector α)
    (k : α)
    (i : Nat)
    (x : Assignment α) :
    (e.shift k).valueAt i x = (e.valueAt i x).map (· + k) := by
  apply valueAt_eq_map (e.length_shift k)
  intro i s hs
  obtain ⟨hvars, hrow, hoffset⟩ := component_eq_ok_iff.mp hs
  have hshifted : (e.offset.map (· + k))[i]? = some (s.constant + k) := by
    rw [List.getElem?_map, hoffset]
    rfl
  refine ⟨{ s with constant := s.constant + k }, ?_, ?_⟩
  · exact component_eq_ok_iff.mpr ⟨hvars, hrow, hshifted⟩
  · exact (add_assoc _ s.constant k).symm

theorem valueAt_scale
    (e : AffineVector α)
    (factor : α)
    (i : Nat)
    (x : Assignment α) :
    (e.scale factor).valueAt i x = (e.valueAt i x).map (factor * ·) := by
  apply valueAt_eq_map (e.length_scale factor)
  intro i s hs
  obtain ⟨hvars, hrow, hoffset⟩ := component_eq_ok_iff.mp hs
  have hscaledRow : (e.matrix.rows.map (List.map (· * factor)))[i]?
      = some (s.coeffs.map (· * factor)) := by
    rw [List.getElem?_map, hrow]
    rfl
  have hscaledOffset : (e.offset.map (· * factor))[i]? = some (s.constant * factor) := by
    rw [List.getElem?_map, hoffset]
    rfl
  refine ⟨s.scale factor, ?_, s.value_scale factor x⟩
  exact component_eq_ok_iff.mpr ⟨hvars, hscaledRow, hscaledOffset⟩

/-- Constants have no columns. -/
theorem component_ofConstants
    {values : List α}
    {i : Nat}
    {k : α}
    (h : values[i]? = some k) :
    (ofConstants values).component i = .ok (.ofConstant k) := by
  have hi : i < values.length := (List.getElem?_eq_some_iff.mp h).1
  refine component_eq_ok_iff.mpr ⟨rfl, ?_, h⟩
  rw [ofConstants, DenseMatrix.rows_zeros, List.getElem?_replicate, if_pos hi]
  rfl

/-- Row `i` of the identity matrix reads the variable in slot `i`, whatever the other slots hold. -/
theorem valueAt_ofBasis
    {slots : Basis}
    {i : Nat}
    {v : Variable}
    (h : slots[i]? = some v)
    (x : Assignment α) :
    (ofBasis slots).valueAt i x = .ok (x v.id) := by
  have hi : i < slots.length := (List.getElem?_eq_some_iff.mp h).1
  have hlength : (ofBasis slots : AffineVector α).length = slots.length := List.length_replicate
  obtain ⟨s, hs⟩ := exists_component (hlength ▸ hi)
  obtain ⟨hvars, hrow, hoffset⟩ := component_eq_ok_iff.mp hs
  have hcoeffs : s.coeffs = (List.range slots.length).map fun j => if i = j then 1 else 0 := by
    have hidentity : (DenseMatrix.identity slots.length : DenseMatrix α).rows[i]?
        = some ((List.range slots.length).map fun j => if i = j then 1 else 0) := by
      simp [DenseMatrix.identity, DenseMatrix.ofFn, hi]
    exact Option.some.inj (hrow.symm.trans hidentity)
  have hconstant : s.constant = 0 := by
    have hzero : (List.replicate slots.length (0 : α))[i]? = some 0 := by
      rw [List.getElem?_replicate, if_pos hi]
    exact Option.some.inj (hoffset.symm.trans hzero)
  have hplace : i < (slots.weights x).length := by
    rw [Basis.length_weights]
    exact hi
  have hweight := weigh_single hplace 1
  rw [Basis.length_weights] at hweight
  have hread : (slots.weights x).getD i 0 = x v.id := by
    simp [Basis.weights, h]
  have hvalue : s.value x = x v.id := by
    have hvars' : s.vars = slots := hvars
    rw [Affine.value_eq_weigh, hvars', hcoeffs, hconstant, hweight, hread, one_mul, add_zero]
  exact (congrArg (Except.map fun t => t.value x) hs).trans (congrArg Except.ok hvalue)

end AffineVector

namespace VectorExpr

/-- The value at a place: that of the component there. -/
def valueAt
    (e : VectorExpr α)
    (i : Nat)
    (x : Assignment α) :
    Except ExprError α :=
  (e.component i).map fun s => s.value x

/-- Becoming an affine vector changes no component, up to what it is worth. -/
theorem valueAt_toAffine
    (e : VectorExpr α)
    (i : Nat)
    (x : Assignment α) :
    e.valueAt i x = e.toAffine.valueAt i x := by
  by_cases hi : i < e.length
  · obtain ⟨s, hs⟩ := exists_component_iff.mpr hi
    rcases component_cases hs with
      ⟨values, k, rfl, hget, rfl⟩ | ⟨slots, v, rfl, hget, rfl⟩ | ⟨a, t, rfl, hcomponent, rfl⟩
    · have hvalue := (AffineVector.component_ofConstants hget)
      rw [valueAt, hs, toAffine, AffineVector.valueAt, hvalue]
      exact congrArg Except.ok (Affine.value_ofConstant k x).symm
    · rw [valueAt, hs, toAffine, AffineVector.valueAt_ofBasis hget]
      rfl
    · rw [valueAt, hs, toAffine, AffineVector.valueAt, hcomponent]
      rfl
  · have hlength : e.length ≤ i := Nat.not_lt.mp hi
    rw [valueAt, component_of_length_le hlength,
      AffineVector.valueAt_of_length_le (by rwa [length_toAffine]), length_toAffine]
    rfl

theorem exists_valueAt
    {e : VectorExpr α}
    {i : Nat}
    (h : i < e.length)
    (x : Assignment α) :
    ∃ p, e.valueAt i x = .ok p := by
  obtain ⟨s, hs⟩ := exists_component_iff.mpr h
  refine ⟨s.value x, ?_⟩
  rw [valueAt, hs]
  rfl

theorem valueAt_sum
    {a b : VectorExpr α}
    (h : a.length = b.length)
    {i : Nat}
    (hi : i < a.length)
    (x : Assignment α) :
    ∃ p q, a.valueAt i x = .ok p ∧ b.valueAt i x = .ok q ∧ (a.sum b).valueAt i x = .ok (p + q) := by
  simp only [valueAt_toAffine, toAffine_sum]
  apply AffineVector.valueAt_add
  · rw [length_toAffine, length_toAffine, h]
  · rwa [length_toAffine]

theorem valueAt_shift
    (e : VectorExpr α)
    (k : α)
    (i : Nat)
    (x : Assignment α) :
    (e.shift k).valueAt i x = (e.valueAt i x).map (· + k) := by
  rw [valueAt_toAffine, valueAt_toAffine, toAffine_shift, AffineVector.valueAt_shift]

theorem valueAt_scale
    (e : VectorExpr α)
    (factor : α)
    (i : Nat)
    (x : Assignment α) :
    (e.scale factor).valueAt i x = (e.valueAt i x).map (factor * ·) := by
  rw [valueAt_toAffine, valueAt_toAffine, toAffine_scale, AffineVector.valueAt_scale]

end VectorExpr

namespace Expression

/-- The number of components of a vector. -/
def length? : Expression α → Option Nat
  | scalar _ => none
  | vector e => some e.length

/-- The value at a place; a scalar expression has its value at every place. -/
def valueAt
    (e : Expression α)
    (i : Nat)
    (x : Assignment α) :
    Except ExprError α :=
  match e with
  | scalar e => .ok (e.value x)
  | vector e => e.valueAt i x

/-- The pairs of operands that have a sum. -/
inductive Addable : Expression α → Expression α → Prop
  | scalars
      (a b : ScalarExpr α) :
      Addable (scalar a) (scalar b)
  | vectors
      {a b : VectorExpr α}
      (sameLength : a.length = b.length) :
      Addable (vector a) (vector b)
  | constantRight
      (a : VectorExpr α)
      {b : ScalarExpr α}
      (hkind : b.kind = .constant) :
      Addable (vector a) (scalar b)
  | constantLeft
      {a : ScalarExpr α}
      (b : VectorExpr α)
      (hkind : a.kind = .constant) :
      Addable (scalar a) (vector b)

theorem exists_add_iff
    {a b : Expression α} :
    (∃ s, a.add b = .ok s) ↔ Addable a b := by
  simp only [add_eq_ok_iff]
  constructor
  · rintro ⟨s, hs⟩
    cases hs with
    | scalars a b => exact .scalars a b
    | vectors hlength => exact .vectors hlength
    | constantRight a k => exact .constantRight a rfl
    | constantLeft k b => exact .constantLeft b rfl
  · intro h
    cases h with
    | scalars a b => exact ⟨_, .scalars a b⟩
    | vectors hlength => exact ⟨_, .vectors hlength⟩
    | @constantRight a b hkind =>
      obtain ⟨k, rfl⟩ := ScalarExpr.kind_eq_constant_iff.mp hkind
      exact ⟨_, .constantRight a k⟩
    | @constantLeft a b hkind =>
      obtain ⟨k, rfl⟩ := ScalarExpr.kind_eq_constant_iff.mp hkind
      exact ⟨_, .constantLeft k b⟩

theorem add_of_length?_ne
    {a b : Expression α}
    {m n : Nat}
    (ha : a.length? = some m)
    (hb : b.length? = some n)
    (h : m ≠ n) :
    a.add b = .error (.dimensionMismatch .addedLengths m n) := by
  cases a with
  | scalar a => cases ha
  | vector a =>
    cases b with
    | scalar b => cases hb
    | vector b =>
      cases ha
      cases hb
      exact add_eq_error_iff.mpr (.inl ⟨a, b, rfl, rfl, h, rfl⟩)

/-- Beside a vector every scalar expression is refused that is no constant. -/
theorem add_of_not_addable
    {a b : Expression α}
    (h : ¬ Addable a b)
    (hshape : a.length? = none ∨ b.length? = none) :
    a.add b = .error (.unsupportedOperands .plus a.kind b.kind) := by
  apply add_eq_error_iff.mpr
  refine .inr ⟨?_, rfl⟩
  cases a with
  | scalar a =>
    cases b with
    | scalar b => exact absurd (.scalars a b) h
    | vector b => exact .inr ⟨a, b, rfl, rfl, fun hkind => h (.constantLeft b hkind)⟩
  | vector a =>
    cases b with
    | scalar b => exact .inl ⟨a, b, rfl, rfl, fun hkind => h (.constantRight a hkind)⟩
    | vector b =>
      rcases hshape with hshape | hshape
      · cases hshape
      · cases hshape

/-- Where a vector takes part, a sum has its length and place by place the sum of the values. -/
theorem IsSum.valueAt
    {a b s : Expression α}
    (h : IsSum a b s)
    {n : Nat}
    (hn : a.length? = some n ∨ b.length? = some n)
    (x : Assignment α) :
    s.length? = some n ∧
      ∀ i < n, ∃ p q, a.valueAt i x = .ok p ∧ b.valueAt i x = .ok q ∧
        s.valueAt i x = .ok (p + q) := by
  cases h with
  | scalars a b =>
    rcases hn with hn | hn
    · cases hn
    · cases hn
  | @vectors a b hlength =>
    obtain rfl : a.length = n := by
      rcases hn with hn | hn
      · exact Option.some.inj hn
      · exact hlength.trans (Option.some.inj hn)
    refine ⟨congrArg some (VectorExpr.length_sum hlength), ?_⟩
    intro i hi
    exact VectorExpr.valueAt_sum hlength hi x
  | constantRight a k =>
    obtain rfl : a.length = n := by
      rcases hn with hn | hn
      · exact Option.some.inj hn
      · cases hn
    refine ⟨congrArg some (a.length_shift k), ?_⟩
    intro i hi
    obtain ⟨p, hp⟩ := VectorExpr.exists_valueAt hi x
    refine ⟨p, k, hp, rfl, ?_⟩
    refine (a.valueAt_shift k i x).trans ?_
    rw [hp]
    rfl
  | constantLeft k b =>
    obtain rfl : b.length = n := by
      rcases hn with hn | hn
      · cases hn
      · exact Option.some.inj hn
    refine ⟨congrArg some (b.length_shift k), ?_⟩
    intro i hi
    obtain ⟨q, hq⟩ := VectorExpr.exists_valueAt hi x
    refine ⟨k, q, rfl, hq, ?_⟩
    refine (b.valueAt_shift k i x).trans ?_
    rw [hq, add_comm k q]
    rfl

theorem length?_scale
    (e : Expression α)
    (factor : α) :
    (e.scale factor).length? = e.length? := by
  cases e with
  | scalar e => rfl
  | vector e => exact congrArg some (e.length_scale factor)

theorem valueAt_scale
    (e : Expression α)
    (factor : α)
    (i : Nat)
    (x : Assignment α) :
    (e.scale factor).valueAt i x = (e.valueAt i x).map (factor * ·) := by
  cases e with
  | scalar e => exact congrArg Except.ok (e.value_scale factor x)
  | vector e => exact e.valueAt_scale factor i x

end Expression

end Values

namespace Expression

/--
Sums across shapes, exactly where they are defined and with exactly these causes
where they are not; affine scalars are refused beside a vector even over the
empty basis.  Sums and multiples are worth, place by place, what their notation
says, and every vector is worth what its affine form is, place by place and with
the same failure beyond the last.
-/
theorem add_evaluates_place_by_place
    (a b : Expression ℚ)
    (c : ℚ)
    (x : Assignment ℚ) :
    ((∃ s, a.add b = .ok s) ↔ Addable a b)
      ∧
    ((∀ m n, a.length? = some m → b.length? = some n → m ≠ n →
        a.add b = .error (.dimensionMismatch .addedLengths m n)) ∧
      (¬ Addable a b → a.length? = none ∨ b.length? = none →
        a.add b = .error (.unsupportedOperands .plus a.kind b.kind)) ∧
      ∀ (e : Affine ℚ) (u : VectorExpr ℚ),
        (scalar (.affine e)).add (vector u) = .error (.unsupportedOperands .plus .affine u.kind) ∧
        (vector u).add (scalar (.affine e)) = .error (.unsupportedOperands .plus u.kind .affine))
      ∧
    (∀ s n, a.add b = .ok s → a.length? = some n ∨ b.length? = some n →
      s.length? = some n ∧
        ∀ i < n, ∃ p q, a.valueAt i x = .ok p ∧ b.valueAt i x = .ok q ∧
          s.valueAt i x = .ok (p + q))
      ∧
    ((a.scale c).length? = a.length? ∧
      ∀ i, (a.scale c).valueAt i x = (a.valueAt i x).map (c * ·))
      ∧
    ∀ (e : VectorExpr ℚ) (i : Nat),
      ((∃ s, e.component i = .ok s) ↔ i < e.length) ∧
      ((∃ s, e.toAffine.component i = .ok s) ↔ i < e.length) ∧
      (e.length ≤ i →
        e.component i = .error (.dimensionMismatch .rowIndex e.length i) ∧
        e.toAffine.component i = .error (.dimensionMismatch .rowIndex e.length i)) ∧
      e.valueAt i x = e.toAffine.valueAt i x := by
  refine ⟨exists_add_iff, ⟨?_, add_of_not_addable, ?_⟩, ?_, ⟨length?_scale a c, ?_⟩, ?_⟩
  · intro m n ha hb h
    exact add_of_length?_ne ha hb h
  · intro e u
    exact ⟨rfl, rfl⟩
  · intro s n hs hn
    exact (add_eq_ok_iff.mp hs).valueAt hn x
  · intro i
    exact valueAt_scale a c i x
  · intro e i
    refine ⟨VectorExpr.exists_component_iff, ?_, ?_, e.valueAt_toAffine i x⟩
    · rw [← e.length_toAffine]
      exact AffineVector.exists_component_iff
    · intro h
      refine ⟨VectorExpr.component_of_length_le h, ?_⟩
      rw [← e.length_toAffine] at h ⊢
      exact AffineVector.component_of_length_le h

end Expression

end MathProgram

import MathProgram.Proofs.Value

/-!
# The algebra of scalar expressions

Addition takes one of three routes: two constants stay a constant, operands
without a quadratic one are added as affine expressions, and all others as
quadratic ones.  Promoting an operand to a higher kind keeps its value, so that
every route gives the sum of the values.

**Results.**
* `add_routes`: which route a pair of operands takes, and the degrees on it.
* `operators_evaluate`: every operator has the value that its notation says, and
  the degree of a sum is the higher one of its operands.
-/

namespace MathProgram
namespace ScalarExpr

section Routes

variable {α : Type} [Zero α] [One α]

theorem toAffine?_eq_none_iff
    {a : ScalarExpr α} :
    a.toAffine? = none ↔ a.degree = 2 := by
  cases a <;> simp [toAffine?, degree]

variable [Add α]

/-- The three routes of an addition. -/
theorem add_routes
    (a b : ScalarExpr α) :
    (∃ j k, a = constant j ∧ b = constant k ∧ a.add b = constant (j + k))
      ∨
    (∃ e f, a.toAffine? = some e ∧ b.toAffine? = some f ∧
      max a.degree b.degree = 1 ∧ a.add b = affine (e.add f))
      ∨
    (max a.degree b.degree = 2 ∧ a.add b = quadratic (a.toQuadratic.add b.toQuadratic)) := by
  cases a with
  | constant j =>
    cases b with
    | constant k => exact .inl ⟨j, k, rfl, rfl, rfl⟩
    | var w => exact .inr (.inl ⟨_, _, rfl, rfl, rfl, rfl⟩)
    | affine f => exact .inr (.inl ⟨_, _, rfl, rfl, rfl, rfl⟩)
    | quadratic f => exact .inr (.inr ⟨rfl, rfl⟩)
  | var v =>
    cases b with
    | quadratic f => exact .inr (.inr ⟨rfl, rfl⟩)
    | _ => exact .inr (.inl ⟨_, _, rfl, rfl, rfl, rfl⟩)
  | affine e =>
    cases b with
    | quadratic f => exact .inr (.inr ⟨rfl, rfl⟩)
    | _ => exact .inr (.inl ⟨_, _, rfl, rfl, rfl, rfl⟩)
  | quadratic e =>
    cases b <;> exact .inr (.inr ⟨rfl, rfl⟩)

theorem degree_add
    (a b : ScalarExpr α) :
    (a.add b).degree = max a.degree b.degree := by
  rcases add_routes a b with ⟨j, k, rfl, rfl, hadd⟩ | ⟨e, f, _, _, hdegree, hadd⟩ | ⟨hdegree, hadd⟩
  · rw [hadd]
    rfl
  · rw [hadd, hdegree]
    rfl
  · rw [hadd, hdegree]
    rfl

end Routes

theorem degree_scale
    {α : Type}
    [Zero α]
    [One α]
    [Mul α]
    (a : ScalarExpr α)
    (factor : α) :
    (a.scale factor).degree = a.degree := by
  cases a <;> rfl

section Degrees

variable {α : Type}

theorem degree_le_two
    (a : ScalarExpr α) :
    a.degree ≤ 2 := by
  cases a <;> simp [degree]

theorem degree_of_kind_eq_affine
    {a : ScalarExpr α}
    (h : a.kind = .affine) :
    a.degree = 1 := by
  cases a with
  | affine e => rfl
  | _ => cases h

theorem kind_eq_quadratic_iff
    {a : ScalarExpr α} :
    a.kind = .quadratic ↔ a.degree = 2 := by
  cases a <;> simp [kind, degree]

theorem degree_sub
    [Zero α]
    [One α]
    [Add α]
    [Mul α]
    [Neg α]
    (a b : ScalarExpr α) :
    (a.sub b).degree = max a.degree b.degree := by
  rw [sub, degree_add, degree_scale]

end Degrees

section Value

variable {α : Type} [CommRing α]

/-- The number an expression stands for at an assignment. -/
def value
    (a : ScalarExpr α)
    (x : Assignment α) :
    α :=
  match a with
  | constant k => k
  | var v => x v.id
  | affine e => e.value x
  | quadratic e => e.value x

theorem value_toAffine?
    {a : ScalarExpr α}
    {e : Affine α}
    (h : a.toAffine? = some e)
    (x : Assignment α) :
    e.value x = a.value x := by
  cases a with
  | constant k =>
    cases Option.some.inj h
    simp [value]
  | var v =>
    cases Option.some.inj h
    simp [value]
  | affine e =>
    cases Option.some.inj h
    rfl
  | quadratic e => cases h

theorem value_toQuadratic
    (a : ScalarExpr α)
    (x : Assignment α) :
    a.toQuadratic.value x = a.value x := by
  cases a <;> simp [toQuadratic, value]

theorem value_add
    (a b : ScalarExpr α)
    (x : Assignment α) :
    (a.add b).value x = a.value x + b.value x := by
  rcases add_routes a b with ⟨j, k, rfl, rfl, hadd⟩ | ⟨e, f, ha, hb, _, hadd⟩ | ⟨_, hadd⟩
  · rw [hadd]
    rfl
  · rw [hadd, ← value_toAffine? ha, ← value_toAffine? hb]
    exact e.value_add f x
  · rw [hadd, ← value_toQuadratic a, ← value_toQuadratic b]
    exact a.toQuadratic.value_add b.toQuadratic x

theorem value_scale
    (a : ScalarExpr α)
    (factor : α)
    (x : Assignment α) :
    (a.scale factor).value x = factor * a.value x := by
  cases a with
  | constant k =>
    exact mul_comm k factor
  | var v =>
    have hscaled := (Affine.ofVariable v).value_scale factor x
    rwa [Affine.value_ofVariable] at hscaled
  | affine e =>
    exact e.value_scale factor x
  | quadratic e =>
    exact e.value_scale factor x

theorem value_sub
    (a b : ScalarExpr α)
    (x : Assignment α) :
    (a.sub b).value x = a.value x - b.value x := by
  rw [sub, value_add, value_scale]
  ring

/-- Terms that are added one after another count with their values. -/
theorem value_foldl_add
    (terms : List (ScalarExpr α))
    (a : ScalarExpr α)
    (x : Assignment α) :
    (terms.foldl add a).value x = a.value x + (terms.map fun t => t.value x).sum := by
  induction terms generalizing a with
  | nil =>
    simp
  | cons t terms ih =>
    rw [List.foldl_cons, ih, value_add, List.map_cons, List.sum_cons, add_assoc]

/-- Terms that are subtracted one after another count with their negated values. -/
theorem value_foldl_sub
    (terms : List (ScalarExpr α))
    (a : ScalarExpr α)
    (x : Assignment α) :
    (terms.foldl sub a).value x = a.value x - (terms.map fun t => t.value x).sum := by
  induction terms generalizing a with
  | nil =>
    simp
  | cons t terms ih =>
    rw [List.foldl_cons, ih, value_sub, List.map_cons, List.sum_cons, sub_sub]

end Value

/--
The value is a homomorphism: addition and multiplication by a number, and with
them every operator and every accumulation, have the value that their notation
says.  Addition has the higher degree of its operands, multiplication keeps the
degree.
-/
theorem operators_evaluate
    (a b : ScalarExpr ℚ)
    (c : ℚ)
    (terms : List (ScalarExpr ℚ))
    (x : Assignment ℚ) :
    ((a.add b).value x = a.value x + b.value x ∧ (a.scale c).value x = c * a.value x)
      ∧
    ((a + b).value x = a.value x + b.value x ∧ (a - b).value x = a.value x - b.value x ∧
      (-a).value x = -a.value x ∧
      (a * c : ScalarExpr ℚ).value x = a.value x * c ∧
      (c * a : ScalarExpr ℚ).value x = c * a.value x ∧
      (constant c + a).value x = c + a.value x ∧ (constant c - a).value x = c - a.value x)
      ∧
    ((terms.foldl (· + ·) a).value x = a.value x + (terms.map fun t => t.value x).sum ∧
      (terms.foldl (· - ·) a).value x = a.value x - (terms.map fun t => t.value x).sum)
      ∧
    ((a.add b).degree = max a.degree b.degree ∧ (a.scale c).degree = a.degree) := by
  have hneg : (-a).value x = -a.value x := by
    refine (value_scale a (-1) x).trans ?_
    ring
  have hright : (a * c : ScalarExpr ℚ).value x = a.value x * c := by
    refine (value_scale a c x).trans ?_
    ring
  exact
    ⟨⟨value_add a b x, value_scale a c x⟩,
      ⟨value_add a b x, value_sub a b x, hneg, hright, value_scale a c x,
        value_add (constant c) a x, value_sub (constant c) a x⟩,
      ⟨value_foldl_add terms a x, value_foldl_sub terms a x⟩,
      ⟨degree_add a b, degree_scale a c⟩⟩

end ScalarExpr
end MathProgram

import MathProgram.Expression.Summation
import MathProgram.Proofs.ResultIds

/-!
# Sums of many expressions

`sum` starts from the empty affine expression, `sumFromConstant` from the constant
zero, and a loop from the default expression.  They take other routes as long as
only constants were met: then one of them adds affine expressions without variables
where the others add numbers.

**Two zeros.**  The first summand that is not a constant makes both totals equal,
and they stay equal.  Without such a summand they have the same number, as a constant
on one side and as an affine expression without variables on the other.

**Repeated ids.**  A total starts without variables.  From then on it never repeats an
id: operands over one sequence of ids are added slot by slot without dropping
repeats, but that sequence is then the one of the total.

**Main statement.**  `ScalarExpr.summations_agree`.
-/

namespace MathProgram

/-- Dropping repeats keeps the first variable of every id. -/
theorem Basis.find?_unique
    (basis : Basis)
    (id : Nat) :
    basis.unique.find? (fun v => v.id == id) = basis.find? (fun v => v.id == id) := by
  induction basis with
  | nil =>
    rfl
  | cons v rest ih =>
    rw [unique_cons]
    by_cases hv : v.id = id
    · rw [List.find?_cons_of_pos (by simpa using hv), List.find?_cons_of_pos (by simpa using hv)]
    · -- Later variables with this id are not among those that the first one replaces.
      have hlater : (fun w : Variable => decide ((w.id != v.id) = true ∧ (w.id == id) = true))
          = fun w => w.id == id := by
        funext w
        by_cases hw : w.id = id
        · simp [hw, Ne.symm hv]
        · simp [hw]
      rw [List.find?_cons_of_neg (by simpa using hv), List.find?_cons_of_neg (by simpa using hv),
        List.find?_filter, hlater, ih]

section ConstantTerms

variable {α : Type} [Zero α]

theorem Affine.constant_add
    [Add α]
    (a b : Affine α) :
    (a.add b).constant = a.constant + b.constant := by
  unfold Affine.add
  split
  · rfl
  · rfl

theorem Quadratic.constant_add
    [Add α]
    (a b : Quadratic α) :
    (a.add b).constant = a.constant + b.constant := by
  unfold Quadratic.add
  split
  · rfl
  · rfl

variable [One α]

theorem ScalarExpr.constant_toAffine?
    {a : ScalarExpr α}
    {e : Affine α}
    (h : a.toAffine? = some e) :
    e.constant = a.constantTerm := by
  cases a with
  | quadratic f => cases h
  | _ =>
    cases h
    rfl

theorem ScalarExpr.constant_toQuadratic
    (a : ScalarExpr α) :
    a.toQuadratic.constant = a.constantTerm := by
  cases a <;> rfl

end ConstantTerms

namespace ScalarExpr

section Totals

variable {α : Type} [Zero α] [One α] [Add α]

/-- A total without repeats takes in the new ids of each summand, and has no repeats then. -/
theorem vars_foldl_add
    (items : List (ScalarExpr α))
    {total : ScalarExpr α}
    (h : total.vars.slotIds.Nodup) :
    (items.foldl add total).vars = Basis.unique (total.vars ++ items.flatMap vars) := by
  induction items generalizing total with
  | nil =>
    rw [List.foldl_nil, List.flatMap_nil, List.append_nil, Basis.unique_of_nodup h]
  | cons item items ih =>
    have hstep : (total.add item).vars = Basis.unique (total.vars ++ item.vars) := by
      rw [vars_add, Basis.merge_eq_unique fun _ => h]
    have hnodup : (total.add item).vars.slotIds.Nodup := by
      rw [hstep]
      exact Basis.nodup_unique _
    rw [List.foldl_cons, ih hnodup, hstep, Basis.unique_unique_append, List.flatMap_cons,
      List.append_assoc]

theorem vars_sum
    (items : List (ScalarExpr α)) :
    (sum items).vars = Basis.unique (items.flatMap vars) := by
  have hnone : (empty : ScalarExpr α).vars = [] := by
    rfl
  have hnodup : (empty : ScalarExpr α).vars.slotIds.Nodup := by
    rw [hnone]
    exact List.nodup_nil
  rw [sum, vars_foldl_add items hnodup, hnone, List.nil_append]

theorem kind_add_of_degree_le_one
    {a b : ScalarExpr α}
    (ha : a.kind = .affine)
    (hb : b.degree ≤ 1) :
    (a.add b).kind = .affine := by
  have hone := degree_of_kind_eq_affine ha
  rcases add_routes a b with ⟨j, _, rfl, _, _⟩ | ⟨_, _, _, _, _, hadd⟩ | ⟨htwo, _⟩
  · cases ha
  · rw [hadd]
    rfl
  · omega

/-- Without a quadratic summand an affine total stays affine. -/
theorem kind_foldl_add
    {items : List (ScalarExpr α)}
    (h : ∀ item ∈ items, item.degree ≤ 1)
    {total : ScalarExpr α}
    (htotal : total.kind = .affine) :
    (items.foldl add total).kind = .affine := by
  induction items generalizing total with
  | nil =>
    exact htotal
  | cons item items ih =>
    obtain ⟨hitem, hitems⟩ := List.forall_mem_cons.mp h
    exact ih hitems (kind_add_of_degree_le_one htotal hitem)

theorem kind_sum
    {items : List (ScalarExpr α)}
    (h : ∀ item ∈ items, item.degree ≤ 1) :
    (sum items).kind = .affine := by
  exact kind_foldl_add h rfl

/-- On every route the constant terms are added, and nothing else goes into their sum. -/
theorem constantTerm_add
    (a b : ScalarExpr α) :
    (a.add b).constantTerm = a.constantTerm + b.constantTerm := by
  rcases add_routes a b with ⟨j, k, rfl, rfl, hadd⟩ | ⟨e, f, he, hf, _, hadd⟩ | ⟨_, hadd⟩
  · rfl
  · rw [hadd, ← constant_toAffine? he, ← constant_toAffine? hf]
    exact e.constant_add f
  · rw [hadd, ← constant_toQuadratic a, ← constant_toQuadratic b]
    exact a.toQuadratic.constant_add b.toQuadratic

theorem constantTerm_foldl_add
    (items : List (ScalarExpr α))
    (total : ScalarExpr α) :
    (items.foldl add total).constantTerm
      =
    (items.map constantTerm).foldl (· + ·) total.constantTerm := by
  induction items generalizing total with
  | nil =>
    rfl
  | cons item items ih =>
    rw [List.foldl_cons, ih, constantTerm_add, List.map_cons, List.foldl_cons]

theorem constantTerm_sum
    (items : List (ScalarExpr α)) :
    (sum items).constantTerm = runningSum (items.map constantTerm) := by
  exact constantTerm_foldl_add items empty

/-- A weighted sum is a sum with a single summand, as long as both lists have one length. -/
theorem dot_eq_ok_iff
    {vars : Basis}
    {coeffs : List α}
    {s : ScalarExpr α} :
    dot vars coeffs = .ok s
      ↔
    ∃ h, s = sum [affine { vars, coeffs, constant := 0, length_coeffs := h }] := by
  unfold dot
  split
  · next h =>
    rw [Except.ok.injEq, eq_comm]
    exact ⟨fun hs => ⟨h, hs⟩, fun ⟨_, hs⟩ => hs⟩
  · next h =>
    constructor
    · intro hs
      cases hs
    · rintro ⟨hlength, _⟩
      exact absurd hlength h

theorem vars_dot
    {vars : Basis}
    {coeffs : List α}
    {s : ScalarExpr α}
    (h : dot vars coeffs = .ok s) :
    s.vars = vars.unique := by
  obtain ⟨_, rfl⟩ := dot_eq_ok_iff.mp h
  rw [vars_sum, List.flatMap_singleton]
  rfl

end Totals

section Starts

variable {α : Type} [Zero α] [One α] [Add α]

/-- The total of a loop that starts from the default expression and adds to it in place. -/
def accumulated
    (items : List (ScalarExpr α)) :
    ScalarExpr α := Id.run do
  let mut total := default
  for item in items do
    total := total + item
  return total

theorem accumulated_eq
    (items : List (ScalarExpr α)) :
    accumulated items = sumFromConstant items := by
  simp only [accumulated, List.forIn_pure_yield_eq_foldl]
  rfl

/-- Next to anything but a constant, a number is added as an affine expression anyway. -/
theorem constant_add_of_kind_ne
    {b : ScalarExpr α}
    (h : b.kind ≠ .constant)
    (k : α) :
    (constant k).add b = (affine (.ofConstant k)).add b := by
  cases b with
  | constant j => exact absurd rfl h
  | var v => rfl
  | affine e => rfl
  | quadratic e => rfl

theorem ofConstant_add_constant
    (j k : α) :
    (affine (.ofConstant j)).add (constant k) = affine (.ofConstant (j + k)) := by
  rfl

/-- As long as there are only constants, both totals have one number. -/
theorem foldl_add_of_constants
    {items : List (ScalarExpr α)}
    (h : ∀ item ∈ items, item.kind = .constant)
    (k : α) :
    items.foldl add (constant k) = constant ((items.map constantTerm).foldl (· + ·) k) ∧
      items.foldl add (affine (.ofConstant k))
        = affine (.ofConstant ((items.map constantTerm).foldl (· + ·) k)) := by
  induction items generalizing k with
  | nil =>
    exact ⟨rfl, rfl⟩
  | cons item items ih =>
    obtain ⟨hitem, hitems⟩ := List.forall_mem_cons.mp h
    obtain ⟨j, rfl⟩ := kind_eq_constant_iff.mp hitem
    obtain ⟨hconstant, haffine⟩ := ih hitems (k + j)
    rw [List.foldl_cons, List.foldl_cons, ofConstant_add_constant]
    exact ⟨hconstant, haffine⟩

/-- From the first summand that is not a constant both totals are one expression. -/
theorem foldl_add_of_exists_kind_ne
    {items : List (ScalarExpr α)}
    (h : ∃ item ∈ items, item.kind ≠ .constant)
    (k : α) :
    items.foldl add (constant k) = items.foldl add (affine (.ofConstant k)) := by
  induction items generalizing k with
  | nil =>
    obtain ⟨_, hitem, _⟩ := h
    cases hitem
  | cons item items ih =>
    rw [List.foldl_cons, List.foldl_cons]
    by_cases hkind : item.kind = .constant
    · obtain ⟨j, rfl⟩ := kind_eq_constant_iff.mp hkind
      have hrest : ∃ item ∈ items, item.kind ≠ .constant := by
        obtain ⟨other, hother, hne⟩ := h
        rcases List.mem_cons.mp hother with rfl | hother
        · exact absurd hkind hne
        · exact ⟨other, hother, hne⟩
      rw [ofConstant_add_constant]
      exact ih hrest (k + j)
    · rw [constant_add_of_kind_ne hkind]

theorem sums_of_constants
    {items : List (ScalarExpr α)}
    (h : ∀ item ∈ items, item.kind = .constant) :
    sumFromConstant items = constant (runningSum (items.map constantTerm)) ∧
      sum items = affine (.ofConstant (runningSum (items.map constantTerm))) := by
  exact foldl_add_of_constants h 0

/-- Both sums are equal unless there are constants only, which one of them leaves a constant. -/
theorem sumFromConstant_eq_sum_iff
    {items : List (ScalarExpr α)} :
    sumFromConstant items = sum items ↔ ∃ item ∈ items, item.kind ≠ .constant := by
  constructor
  · intro hsame
    by_contra hnone
    have hall : ∀ item ∈ items, item.kind = .constant := by
      intro item hitem
      by_contra hkind
      exact hnone ⟨item, hitem, hkind⟩
    obtain ⟨hconstant, haffine⟩ := sums_of_constants hall
    rw [hconstant, haffine] at hsame
    cases hsame
  · intro h
    exact foldl_add_of_exists_kind_ne h 0

end Starts

section Values

variable {α : Type} [CommRing α]

theorem value_sum
    (items : List (ScalarExpr α))
    (x : Assignment α) :
    (sum items).value x = (items.map fun item => item.value x).sum := by
  have hempty : (empty : ScalarExpr α).value x = 0 :=
    Affine.value_ofConstant 0 x
  rw [sum, value_foldl_add, hempty, zero_add]

theorem value_sumFromConstant
    (items : List (ScalarExpr α))
    (x : Assignment α) :
    (sumFromConstant items).value x = (items.map fun item => item.value x).sum := by
  have hzero : (constant 0 : ScalarExpr α).value x = 0 := by
    rfl
  rw [sumFromConstant, value_foldl_add, hzero, zero_add]

/-- A weighted sum has as its value the sum of the variables' values times their coefficients. -/
theorem value_dot
    {vars : Basis}
    {coeffs : List α}
    {s : ScalarExpr α}
    (h : dot vars coeffs = .ok s)
    (x : Assignment α) :
    s.value x = (List.zipWith (fun c v => c * x v.id) coeffs vars).sum := by
  obtain ⟨_, rfl⟩ := dot_eq_ok_iff.mp h
  rw [value_sum, List.map_singleton, List.sum_singleton]
  exact add_zero _

end Values

/--
All ways to sum agree.  The basis of a sum has every id once, with its first handle.
A loop from the default expression gives what the sum from the constant zero gives,
and both give the sum from the empty affine expression, unless there are constants
only: then both forms have one number.  The value of a sum is the sum of the values.
A weighted sum of lists of one length exists, over the distinct ids, and has the
weighted sum of the values.
-/
theorem summations_agree :
    (∀ (α : Type) [Zero α] [One α] [Add α] (items : List (ScalarExpr α)),
      ((sum items).vars = Basis.unique (items.flatMap vars) ∧
        (sum items).vars.slotIds.Nodup ∧
        ∀ id, (sum items).vars.find? (fun v => v.id == id)
          = (items.flatMap vars).find? (fun v => v.id == id)) ∧
      accumulated items = sumFromConstant items ∧
      (sumFromConstant items = sum items ↔ ∃ item ∈ items, item.kind ≠ .constant) ∧
      ((∀ item ∈ items, item.kind = .constant) →
        sumFromConstant items = constant (runningSum (items.map constantTerm)) ∧
          sum items = affine (.ofConstant (runningSum (items.map constantTerm)))))
      ∧
    (∀ (α : Type) [Zero α] [One α] [Add α] (vars : Basis) (coeffs : List α),
      coeffs.length = vars.length → ∃ s, dot vars coeffs = .ok s ∧ s.vars = vars.unique)
      ∧
    ∀ (α : Type) [CommRing α] (x : Assignment α),
      (∀ items : List (ScalarExpr α),
        (sum items).value x = (items.map fun item => item.value x).sum ∧
          (sumFromConstant items).value x = (items.map fun item => item.value x).sum) ∧
      ∀ (vars : Basis) (coeffs : List α) (s : ScalarExpr α), dot vars coeffs = .ok s →
        s.value x = (List.zipWith (fun c v => c * x v.id) coeffs vars).sum := by
  refine ⟨?_, ?_, ?_⟩
  · intro α _ _ _ items
    refine ⟨⟨vars_sum items, ?_, ?_⟩, accumulated_eq items, sumFromConstant_eq_sum_iff,
      sums_of_constants⟩
    · rw [vars_sum]
      exact Basis.nodup_unique _
    · intro id
      rw [vars_sum, Basis.find?_unique]
  · intro α _ _ _ vars coeffs hlength
    have hdot := dot_eq_ok_iff.mpr ⟨hlength, rfl⟩
    exact ⟨_, hdot, vars_dot hdot⟩
  · intro α _ x
    exact ⟨fun items => ⟨value_sum items x, value_sumFromConstant items x⟩,
      fun _ _ _ h => value_dot h x⟩

/-- Constants alone, and a weighted sum in which a variable comes twice. -/
theorem summations_agree_repeating :
    (∀ item ∈ [constant (2 : ℚ), constant (-3)], item.kind = .constant) ∧
      sumFromConstant [constant (2 : ℚ), constant (-3)] = constant (-1) ∧
      sum [constant (2 : ℚ), constant (-3)] = affine (.ofConstant (-1)) ∧
      ∃ s, dot [⟨5, 0, 1, .binary⟩, ⟨2, 0, 1, .binary⟩, ⟨5, 0, 9, .integer⟩] [(1 : ℚ), 2, 4]
          = .ok s ∧
        s.ids = [5, 2] ∧
        s.value (fun id => id) = 29 := by
  have hconstants : ∀ item ∈ [constant (2 : ℚ), constant (-3)], item.kind = .constant := by
    simp [kind]
  have hnumber : runningSum ([constant (2 : ℚ), constant (-3)].map constantTerm) = -1 := by
    decide +kernel
  obtain ⟨-, -, -, hsums⟩ := summations_agree.1 ℚ [constant 2, constant (-3)]
  obtain ⟨hconstant, haffine⟩ := hsums hconstants
  obtain ⟨s, hs, hvars⟩ := summations_agree.2.1 ℚ
    [⟨5, 0, 1, .binary⟩, ⟨2, 0, 1, .binary⟩, ⟨5, 0, 9, .integer⟩] [1, 2, 4] rfl
  have hvalue := (summations_agree.2.2 ℚ fun id => id).2 _ _ s hs
  rw [hnumber] at hconstant haffine
  refine ⟨hconstants, hconstant, haffine, s, hs, ?_, ?_⟩
  · rw [ids_eq_ids_vars, hvars]
    rfl
  · rw [hvalue]
    decide +kernel

end ScalarExpr

end MathProgram

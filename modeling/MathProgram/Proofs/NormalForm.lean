import MathProgram.Proofs.Accessors
import MathProgram.Proofs.Moving

/-!
# The normal form of a scalar constraint

A constraint without a quadratic side has one row: the ids of both sides, each of
them once, with what it has on the left minus what it has on the right, and the
constants on the other side of the sense.

**Reading an expression by its values.**  Where everything is zero an expression
has its constant term as its value, and where one id is one it has the
coefficient of that id on top.  So the coefficients of a difference follow from
its values, whichever way the difference was added up.

**Results.**
* `ScalarExpr.value_unit`: the coefficient of an id is a difference of values.
* `LinearRow.IsNormalForm.unique`: there is no second row in normal form.
* `ScalarConstraint.linearRow_normal_form`: the row is the only one in normal form.
-/

namespace MathProgram

namespace ScalarExpr

section Coefficients

variable {α : Type}

/-- Id and coefficient of every slot, without the products of a quadratic expression. -/
def terms
    [One α] :
    ScalarExpr α → List (Nat × α)
  | constant _ => []
  | var v => [(v.id, 1)]
  | affine e => e.terms
  | quadratic e => e.affinePart.terms

/-- The coefficients of all slots of an id together. -/
def coefficientOf
    [Zero α]
    [One α]
    [Add α]
    (a : ScalarExpr α)
    (id : Nat) :
    α :=
  ((a.terms.filter fun t => t.1 == id).map Prod.snd).sum

end Coefficients

end ScalarExpr

section Values

variable {α : Type} [CommRing α]

/-- One for a single id, zero for all others. -/
def Assignment.unit
    (id : Nat) :
    Assignment α :=
  fun i => if i = id then 1 else 0

namespace Affine

theorem value_zero
    (e : Affine α) :
    e.value (fun _ => 0) = e.constant := by
  rw [value_eq_weigh_ids, weigh_map_zero, zero_add]

theorem value_unit
    (e : Affine α)
    (id : Nat) :
    e.value (Assignment.unit id) = slotSum e.vars.slotIds e.coeffs id + e.constant := by
  rw [value_eq_weigh, Basis.weights_eq_map, slotSum_eq_weigh]
  rfl

theorem coefficientOf_eq_slotSum
    (e : Affine α)
    (id : Nat) :
    (ScalarExpr.affine e).coefficientOf id = slotSum e.vars.slotIds e.coeffs id := by
  exact (runningSum_eq_sum _).symm

end Affine

namespace ScalarExpr

theorem value_zero
    {a : ScalarExpr α}
    (h : a.degree ≤ 1) :
    a.value (fun _ => 0) = a.constantTerm := by
  rw [value_eq_weigh_ids h, weigh_map_zero, zero_add]

/-- Where one id is one and all others are zero, the value tells the coefficient of the id. -/
theorem value_unit
    {a : ScalarExpr α}
    (h : a.degree ≤ 1)
    (id : Nat) :
    a.value (Assignment.unit id) = a.coefficientOf id + a.constantTerm := by
  cases a with
  | constant k => simp [value, coefficientOf, terms, constantTerm]
  | var v =>
    by_cases hv : v.id = id <;>
      simp [value, coefficientOf, terms, constantTerm, Assignment.unit, hv]
  | affine e =>
    rw [e.coefficientOf_eq_slotSum]
    exact e.value_unit id
  | quadratic e => exact absurd h (Nat.not_succ_le_self 1)

variable {a b : ScalarExpr α} {e : Affine α}

theorem constant_of_sub
    (ha : a.degree ≤ 1)
    (hb : b.degree ≤ 1)
    (he : (a.sub b).toAffine? = some e) :
    e.constant = a.constantTerm - b.constantTerm := by
  rw [← e.value_zero, value_toAffine? he, value_sub, value_zero ha, value_zero hb]

/-- An id has in a difference what it has on the left minus what it has on the right. -/
theorem slotSum_of_sub
    (ha : a.degree ≤ 1)
    (hb : b.degree ≤ 1)
    (he : (a.sub b).toAffine? = some e)
    (id : Nat) :
    slotSum e.vars.slotIds e.coeffs id = a.coefficientOf id - b.coefficientOf id := by
  have hvalue : slotSum e.vars.slotIds e.coeffs id + e.constant
      = a.coefficientOf id + a.constantTerm - (b.coefficientOf id + b.constantTerm) := by
    rw [← e.value_unit, value_toAffine? he, value_sub, value_unit ha, value_unit hb]
  rw [constant_of_sub ha hb he, add_sub_add_comm] at hvalue
  exact add_right_cancel hvalue

end ScalarExpr

end Values

namespace ScalarConstraint

section Rows

variable {α : Type} [Zero α] [One α] [Add α] [Mul α] [Neg α]

theorem linearRow_eq_error_iff
    {c : ScalarConstraint α}
    {cause : ExprError} :
    c.linearRow = .error cause
      ↔
    c.degree = 2 ∧ cause = .unsupportedOperands .linearRow c.lhs.kind c.rhs.kind := by
  rcases c.linearRow_cases with ⟨e, hdegree, _, hrow⟩ | ⟨hdegree, hrow⟩
  · constructor
    · intro h
      cases hrow.symm.trans h
    · rintro ⟨htwo, _⟩
      omega
  · rw [hrow, Except.error.injEq]
    exact ⟨fun h => ⟨hdegree, h.symm⟩, fun h => h.2.symm⟩

/-- Without any law of arithmetic a row keeps the sense and has one coefficient for each id. -/
theorem shape_of_linearRow
    {c : ScalarConstraint α}
    {row : LinearRow α}
    (h : c.linearRow = .ok row) :
    row.sense = c.sense ∧ row.ids.Nodup ∧ row.coeffs.length = row.ids.length := by
  rcases c.linearRow_cases with ⟨e, _, _, hrow⟩ | ⟨_, hrow⟩
  · cases hrow.symm.trans h
    exact ⟨rfl, Basis.nodup_ids e.vars, e.length_coeffs_folded⟩
  · cases hrow.symm.trans h

end Rows

end ScalarConstraint

/--
The normal form of a constraint: no quadratic side, its sense, the ids of the left
side and those that only the right one has, and what they have on the left
minus what they have on the right.
-/
structure LinearRow.IsNormalForm
    {α : Type}
    [CommRing α]
    (row : LinearRow α)
    (c : ScalarConstraint α) :
    Prop where
  degree_le : c.degree ≤ 1
  sense_eq : row.sense = c.sense
  ids_eq : row.ids = c.lhs.ids ++ c.rhs.ids.filter fun id => id ∉ c.lhs.ids
  coeffs_eq : row.coeffs = row.ids.map fun id => c.lhs.coefficientOf id - c.rhs.coefficientOf id
  rhs_eq : row.rhs = c.rhs.constantTerm - c.lhs.constantTerm

namespace LinearRow.IsNormalForm

section Uniqueness

variable {α : Type} [CommRing α]

/-- A constraint has at most one row in normal form. -/
theorem unique
    {row other : LinearRow α}
    {c : ScalarConstraint α}
    (h : row.IsNormalForm c)
    (hother : other.IsNormalForm c) :
    row = other := by
  have hids : row.ids = other.ids :=
    h.ids_eq.trans hother.ids_eq.symm
  have hcoeffs : row.coeffs = other.coeffs := by
    rw [h.coeffs_eq, hother.coeffs_eq, hids]
  have hsense : row.sense = other.sense :=
    h.sense_eq.trans hother.sense_eq.symm
  have hrhs : row.rhs = other.rhs :=
    h.rhs_eq.trans hother.rhs_eq.symm
  cases row
  cases other
  rw [LinearRow.mk.injEq]
  exact ⟨hids, hcoeffs, hsense, hrhs⟩

theorem of_linearRow
    {row : LinearRow α}
    {c : ScalarConstraint α}
    (h : c.linearRow = .ok row) :
    row.IsNormalForm c := by
  have hids := ScalarConstraint.ids_of_linearRow h
  rcases c.linearRow_cases with ⟨e, hdegree, he, hrow⟩ | ⟨_, hrow⟩
  · obtain ⟨hlhs, hrhs⟩ := ScalarConstraint.degree_le_one_iff.mp hdegree
    cases hrow.symm.trans h
    refine ⟨hdegree, rfl, hids, ?_, ?_⟩
    · rw [e.coeffs_folded]
      exact List.map_congr_left fun id _ => ScalarExpr.slotSum_of_sub hlhs hrhs he id
    · rw [ScalarExpr.constant_of_sub hlhs hrhs he, neg_sub]
  · cases hrow.symm.trans h

end Uniqueness

end LinearRow.IsNormalForm

/--
There is a row unless one side is of the quadratic kind, whatever its matrix
holds, and the refusal names both kinds from left to right.  A row keeps the sense
and has distinct ids, those of both sides in order of first occurrence, with one
coefficient each.  In exact arithmetic it is the one row in normal form.
-/
theorem ScalarConstraint.linearRow_normal_form :
    (∀ (α : Type) [Zero α] [One α] [Add α] [Mul α] [Neg α] (c : ScalarConstraint α),
      (∀ cause, c.linearRow = .error cause
        ↔
      (c.lhs.kind = .quadratic ∨ c.rhs.kind = .quadratic) ∧
        cause = .unsupportedOperands .linearRow c.lhs.kind c.rhs.kind) ∧
      (c.degree = 2 ↔ c.lhs.kind = .quadratic ∨ c.rhs.kind = .quadratic) ∧
      ∀ row, c.linearRow = .ok row →
        row.sense = c.sense ∧ row.ids.Nodup ∧
          row.ids = c.lhs.ids ++ (c.rhs.ids.filter fun id => id ∉ c.lhs.ids) ∧
          row.coeffs.length = row.ids.length)
      ∧
    ∀ (α : Type) [CommRing α] (c : ScalarConstraint α) (row : LinearRow α),
      c.linearRow = .ok row ↔ row.IsNormalForm c := by
  constructor
  · intro α _ _ _ _ _ c
    refine ⟨?_, c.degree_eq_two_iff, ?_⟩
    · intro cause
      rw [← c.degree_eq_two_iff]
      exact c.linearRow_eq_error_iff
    · intro row h
      obtain ⟨hsense, hnodup, hlength⟩ := shape_of_linearRow h
      exact ⟨hsense, hnodup, ids_of_linearRow h, hlength⟩
  · intro α _ c row
    constructor
    · exact LinearRow.IsNormalForm.of_linearRow
    · intro h
      rcases c.linearRow_cases with ⟨e, _, _, hrow⟩ | ⟨hdegree, _⟩
      · rw [hrow, (LinearRow.IsNormalForm.of_linearRow hrow).unique h]
      · have hle := h.degree_le
        omega

/-- Both sides repeat one id in one basis, and its terms cancel: the id stays, and stays once. -/
example :
    let basis : Basis := [VariableDomain.free.handle 4, VariableDomain.free.handle 4]
    ({ lhs := .affine ⟨basis, [2, 3], 1, rfl⟩
       sense := .lessEqual
       rhs := .affine ⟨basis, [1, 4], 9, rfl⟩ } : ScalarConstraint Int).linearRow
      =
    .ok { ids := [4], coeffs := [0], sense := .lessEqual, rhs := 8 } := by
  rfl

end MathProgram

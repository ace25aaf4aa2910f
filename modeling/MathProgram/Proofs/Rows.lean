import MathProgram.Constraint
import MathProgram.Proofs.BasisUnion
import MathProgram.Proofs.ScalarAlgebra
import MathProgram.Proofs.Traversal

/-!
# The rows of a constraint

A vector constraint compares two vectors of one length, so that every component
below that length exists on both sides.  Its rows are therefore always there,
one per component and in order.

A scalar constraint has a linear row unless one side is quadratic: the folded
difference of both sides, with the constant on the right.

**Results.**
* `Constraint.rows_eq`: the rows of a constraint are always there.
* `ScalarConstraint.linearRow_cases`: what a linear row is made from, or why there is
  none.
-/

namespace MathProgram

section Rows

variable {α : Type}

/-- A component exists exactly below the length of the vector. -/
theorem VectorExpr.exists_component_iff
    {e : VectorExpr α}
    {i : Nat} :
    (∃ s, e.component i = .ok s) ↔ i < e.length := by
  cases e with
  | constant values =>
    by_cases h : i < values.length <;> simp [component, length, h]
  | vars slots =>
    by_cases h : i < slots.length <;> simp [component, length, h]
  | affine e =>
    by_cases h : i < e.offset.length <;>
      simp [component, length, AffineVector.component, AffineVector.length, h, Except.map]

/-- What a component is, by the kind of its vector. -/
theorem VectorExpr.component_cases
    {e : VectorExpr α}
    {i : Nat}
    {s : ScalarExpr α}
    (h : e.component i = .ok s) :
    (∃ values k, e = constant values ∧ values[i]? = some k ∧ s = .constant k)
      ∨
    (∃ slots v, e = vars slots ∧ slots[i]? = some v ∧ s = .var v)
      ∨
    (∃ a t, e = affine a ∧ a.component i = .ok t ∧ s = .affine t) := by
  cases e with
  | constant values =>
    cases hget : values[i]? with
    | none => simp [component, hget] at h
    | some k =>
      refine .inl ⟨values, k, rfl, hget, ?_⟩
      simpa [component, hget, eq_comm] using h
  | vars slots =>
    cases hget : slots[i]? with
    | none => simp [component, hget] at h
    | some v =>
      refine .inr (.inl ⟨slots, v, rfl, hget, ?_⟩)
      simpa [component, hget, eq_comm] using h
  | affine a =>
    cases ha : a.component i with
    | error cause => simp [component, ha, Except.map] at h
    | ok t =>
      refine .inr (.inr ⟨a, t, rfl, ha, ?_⟩)
      simpa [component, ha, Except.map, eq_comm] using h

/-- No component of a vector is quadratic. -/
theorem VectorExpr.degree_component
    {e : VectorExpr α}
    {i : Nat}
    {s : ScalarExpr α}
    (h : e.component i = .ok s) :
    s.degree ≤ 1 := by
  rcases component_cases h with ⟨_, _, _, _, rfl⟩ | ⟨_, _, _, _, rfl⟩ | ⟨_, _, _, _, rfl⟩
  · exact Nat.zero_le 1
  · exact Nat.le_refl 1
  · exact Nat.le_refl 1

/-- A row compares the components of the two sides. -/
theorem VectorConstraint.component_eq_ok_iff
    {c : VectorConstraint α}
    {i : Nat}
    {row : ScalarConstraint α} :
    c.component i = .ok row
      ↔
    c.lhs.component i = .ok row.lhs ∧ row.sense = c.sense ∧ c.rhs.component i = .ok row.rhs := by
  unfold component
  cases c.lhs.component i with
  | error e => simp [bind, Except.bind]
  | ok lhs =>
    cases c.rhs.component i with
    | error e => simp [bind, Except.bind]
    | ok rhs =>
      cases row
      simp [bind, Except.bind, pure, Except.pure, eq_comm]

theorem VectorConstraint.exists_components
    (c : VectorConstraint α) :
    ∃ rows, c.components = .ok rows := by
  apply exists_mapM_eq_ok
  intro i hi
  have hlhs : i < c.lhs.length := by
    simpa [length] using hi
  obtain ⟨lhs, hlhs⟩ := VectorExpr.exists_component_iff.mpr hlhs
  have hrhs : i < c.rhs.length := by
    rw [← c.sameLength]
    simpa [length] using hi
  obtain ⟨rhs, hrhs⟩ := VectorExpr.exists_component_iff.mpr hrhs
  exact ⟨⟨lhs, c.sense, rhs⟩, component_eq_ok_iff.mpr ⟨hlhs, rfl, hrhs⟩⟩

theorem VectorConstraint.length_of_components
    {c : VectorConstraint α}
    {rows : List (ScalarConstraint α)}
    (h : c.components = .ok rows) :
    rows.length = c.length := by
  simpa using length_of_mapM_eq_ok h

/-- Row `i` compares the components at `i`. -/
theorem VectorConstraint.component_of_components
    {c : VectorConstraint α}
    {rows : List (ScalarConstraint α)}
    (h : c.components = .ok rows)
    {i : Nat}
    (hi : i < rows.length) :
    c.lhs.component i = .ok rows[i].lhs ∧ rows[i].sense = c.sense ∧
      c.rhs.component i = .ok rows[i].rhs := by
  have hrange : i < (List.range c.length).length := by
    rw [← length_of_mapM_eq_ok h]
    exact hi
  have hrow := getElem_of_mapM_eq_ok h hrange hi
  rw [List.getElem_range] at hrow
  exact component_eq_ok_iff.mp hrow

namespace Constraint

/-- The rows that a constraint stands for. -/
def scalarRows
    (c : Constraint α) :
    List (ScalarConstraint α) :=
  match c.rows with
  | .ok rows => rows
  | .error _ => []

/-- The rows of a constraint are always there. -/
theorem rows_eq
    (c : Constraint α) :
    c.rows = .ok c.scalarRows := by
  cases c with
  | scalar c => rfl
  | vector c =>
    obtain ⟨rows, hrows⟩ := c.exists_components
    simp [scalarRows, Constraint.rows, hrows]

end Constraint

namespace ScalarConstraint

theorem degree_eq_two_iff
    {c : ScalarConstraint α} :
    c.degree = 2 ↔ c.lhs.kind = .quadratic ∨ c.rhs.kind = .quadratic := by
  have hlhs := c.lhs.degree_le_two
  have hrhs := c.rhs.degree_le_two
  rw [ScalarExpr.kind_eq_quadratic_iff, ScalarExpr.kind_eq_quadratic_iff, degree]
  omega

theorem degree_le_one_iff
    {c : ScalarConstraint α} :
    c.degree ≤ 1 ↔ c.lhs.degree ≤ 1 ∧ c.rhs.degree ≤ 1 := by
  exact max_le_iff

variable [Zero α] [One α] [Add α] [Mul α] [Neg α]

/-- The row is that of the difference of both sides, unless one side is quadratic. -/
theorem linearRow_cases
    (c : ScalarConstraint α) :
    (∃ e, c.degree ≤ 1 ∧ (c.lhs.sub c.rhs).toAffine? = some e ∧
      c.linearRow = .ok
        { ids := e.ids, coeffs := e.folded.coeffs, sense := c.sense, rhs := -e.constant })
      ∨
    (c.degree = 2 ∧
      c.linearRow = .error (.unsupportedOperands .linearRow c.lhs.kind c.rhs.kind)) := by
  have hdegree : (c.lhs.sub c.rhs).degree = c.degree :=
    c.lhs.degree_sub c.rhs
  unfold linearRow
  cases hdifference : (c.lhs.sub c.rhs).toAffine? with
  | none =>
    exact .inr ⟨hdegree ▸ ScalarExpr.toAffine?_eq_none_iff.mp hdifference, rfl⟩
  | some e =>
    have hne : c.degree ≠ 2 := by
      intro htwo
      rw [← hdegree, ← ScalarExpr.toAffine?_eq_none_iff, hdifference] at htwo
      cases htwo
    have hle : c.degree ≤ 2 :=
      max_le c.lhs.degree_le_two c.rhs.degree_le_two
    have hids : e.folded.vars.slotIds = e.ids :=
      Basis.slotIds_fold e.vars
    refine .inl ⟨e, by omega, rfl, ?_⟩
    rw [← hids]
    rfl

end ScalarConstraint

end Rows

end MathProgram

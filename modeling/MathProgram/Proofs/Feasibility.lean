import Mathlib.Algebra.Order.Ring.Rat
import Mathlib.Tactic.Linarith
import MathProgram.Proofs.VectorValue

/-!
# What a solver is told to satisfy

A constraint holds at an assignment when its two sides relate as its sense says,
in every component.  A linear row is satisfied when its weighted sum relates to
its right side in the same way.

**From a comparison to rows.**  A comparison repeats a constant along a vector,
checks lengths and keeps both sides.  A row takes one component of either side.
Its linear form subtracts the right side, folds repeated ids and moves the
constant to the right; none of this changes where it holds.

**Results.**
* `satisfied_of_linearRow`: a linear row is satisfied where its constraint holds.
* `holds_iff_rows`: a constraint holds where all of its rows do.
* `rows_feasible`: a comparison gives one linear row per component, satisfied
  together exactly where every component relates as written.
-/

namespace MathProgram

section Sense

/-- What a sense says about two numbers. -/
def Sense.Holds
    (s : Sense)
    (a b : ℚ) :
    Prop :=
  match s with
  | lessEqual => a ≤ b
  | equal => a = b
  | greaterEqual => b ≤ a

/-- Moving the right side over keeps what a sense says. -/
theorem Sense.holds_sub_iff
    (s : Sense)
    (a b k : ℚ) :
    s.Holds (a - b - k) (-k) ↔ s.Holds a b := by
  cases s with
  | lessEqual =>
    constructor <;> intro h <;> simp only [Holds] at h ⊢ <;> linarith
  | equal =>
    constructor <;> intro h <;> simp only [Holds] at h ⊢ <;> linarith
  | greaterEqual =>
    constructor <;> intro h <;> simp only [Holds] at h ⊢ <;> linarith

end Sense

section Rows

/-- The weighted sum of a row relates to its right side as the row says. -/
def LinearRow.Satisfied
    (row : LinearRow ℚ)
    (x : Assignment ℚ) :
    Prop :=
  row.sense.Holds (List.zipWith (fun c id => c * x id) row.coeffs row.ids).sum row.rhs

namespace ScalarConstraint

/-- Both sides relate as the constraint says. -/
def Holds
    (c : ScalarConstraint ℚ)
    (x : Assignment ℚ) :
    Prop :=
  c.sense.Holds (c.lhs.value x) (c.rhs.value x)

/-- Without a quadratic side there is a linear row. -/
theorem exists_linearRow
    {c : ScalarConstraint ℚ}
    (h : c.degree ≤ 1) :
    ∃ row, c.linearRow = .ok row := by
  rcases c.linearRow_cases with ⟨_, _, _, hrow⟩ | ⟨htwo, _⟩
  · exact ⟨_, hrow⟩
  · omega

/-- A linear row is satisfied exactly where its constraint holds. -/
theorem satisfied_of_linearRow
    {c : ScalarConstraint ℚ}
    {row : LinearRow ℚ}
    (h : c.linearRow = .ok row)
    (x : Assignment ℚ) :
    row.Satisfied x ↔ c.Holds x := by
  rcases c.linearRow_cases with ⟨e, _, hdifference, hrow⟩ | ⟨_, hrow⟩
  · cases hrow.symm.trans h
    have hvalue : e.folded.value x = c.lhs.value x - c.rhs.value x := by
      rw [Affine.value_folded, ScalarExpr.value_toAffine? hdifference, ScalarExpr.value_sub]
    have hids : e.folded.vars.slotIds = e.ids :=
      Basis.slotIds_fold e.vars
    have hsum :
        (List.zipWith (fun k id => k * x id) e.folded.coeffs e.ids).sum
          =
        c.lhs.value x - c.rhs.value x - e.constant := by
      have hconstant : e.folded.constant = e.constant := rfl
      rw [← hvalue, ← hids, Affine.value, Basis.slotIds, List.zipWith_map_right, hconstant]
      ring
    unfold LinearRow.Satisfied Holds
    rw [hsum]
    exact c.sense.holds_sub_iff _ _ _
  · cases hrow.symm.trans h

/-- Constraints without a quadratic side have linear rows that hold where they do. -/
theorem exists_linearRows
    {rows : List (ScalarConstraint ℚ)}
    (h : ∀ row ∈ rows, row.degree ≤ 1) :
    ∃ linear, rows.mapM linearRow = .ok linear ∧
      ∀ x, (∀ row ∈ linear, row.Satisfied x) ↔ ∀ row ∈ rows, row.Holds x := by
  induction rows with
  | nil =>
    exact ⟨[], rfl, by simp⟩
  | cons c rows ih =>
    obtain ⟨hc, hrows⟩ := List.forall_mem_cons.mp h
    obtain ⟨row, hrow⟩ := exists_linearRow hc
    obtain ⟨linear, hlinear, hsatisfied⟩ := ih hrows
    refine ⟨row :: linear, mapM_cons_eq_ok_iff.mpr ⟨row, linear, hrow, hlinear, rfl⟩, ?_⟩
    intro x
    rw [List.forall_mem_cons, List.forall_mem_cons, satisfied_of_linearRow hrow, hsatisfied]

end ScalarConstraint

/-- The sides of a vector constraint relate as it says, in every component. -/
def VectorConstraint.Holds
    (c : VectorConstraint ℚ)
    (x : Assignment ℚ) :
    Prop :=
  List.Forall₂ c.sense.Holds (c.lhs.values x) (c.rhs.values x)

/-- A vector constraint holds exactly where its rows do. -/
theorem VectorConstraint.holds_iff_components
    {c : VectorConstraint ℚ}
    {rows : List (ScalarConstraint ℚ)}
    (h : c.components = .ok rows)
    (x : Assignment ℚ) :
    c.Holds x ↔ ∀ row ∈ rows, row.Holds x := by
  have hlhs : c.lhs.values x = (rows.map (·.lhs)).map fun s => s.value x := by
    apply VectorExpr.values_eq_map
    · rw [List.length_map, length_of_components h, length]
    · intro i hi
      rw [List.getElem_map]
      exact (component_of_components h (by simpa using hi)).1
  have hrhs : c.rhs.values x = (rows.map (·.rhs)).map fun s => s.value x := by
    apply VectorExpr.values_eq_map
    · rw [List.length_map, length_of_components h, length, c.sameLength]
    · intro i hi
      rw [List.getElem_map]
      exact (component_of_components h (by simpa using hi)).2.2
  have hsense (row : ScalarConstraint ℚ) (hrow : row ∈ rows) : row.sense = c.sense := by
    obtain ⟨i, hi, rfl⟩ := List.mem_iff_getElem.mp hrow
    exact (component_of_components h hi).2.1
  unfold Holds
  rw [hlhs, hrhs]
  simp only [List.forall₂_map_left_iff, List.forall₂_map_right_iff, List.forall₂_same]
  constructor
  · intro hall row hrow
    unfold ScalarConstraint.Holds
    rw [hsense row hrow]
    exact hall row hrow
  · intro hall row hrow
    rw [← hsense row hrow]
    exact hall row hrow

namespace Constraint

/-- The constraint has no quadratic side. -/
def IsLinear
    {α : Type}
    (c : Constraint α) :
    Prop :=
  match c with
  | scalar c => c.degree ≤ 1
  | vector _ => True

/-- Both sides relate as the constraint says, in every component. -/
def Holds
    (c : Constraint ℚ)
    (x : Assignment ℚ) :
    Prop :=
  match c with
  | scalar c => c.Holds x
  | vector c => c.Holds x

/-- A constraint holds exactly where all of its rows do. -/
theorem holds_iff_rows
    (c : Constraint ℚ)
    (x : Assignment ℚ) :
    c.Holds x ↔ ∀ row ∈ c.scalarRows, row.Holds x := by
  cases c with
  | scalar c =>
    simp [Holds, scalarRows, rows]
  | vector c =>
    obtain ⟨rows, hrows⟩ := c.exists_components
    have hall : scalarRows (.vector c) = rows := by
      simp [scalarRows, Constraint.rows, hrows]
    rw [hall]
    exact VectorConstraint.holds_iff_components hrows x

/-- No row of a constraint has a quadratic side unless the constraint has one. -/
theorem degree_of_mem_scalarRows
    {α : Type}
    {c : Constraint α}
    (h : c.IsLinear)
    {row : ScalarConstraint α}
    (hrow : row ∈ c.scalarRows) :
    row.degree ≤ 1 := by
  cases c with
  | scalar c =>
    obtain rfl : row = c := by
      simpa [scalarRows, rows] using hrow
    exact h
  | vector c =>
    obtain ⟨rows, hrows⟩ := c.exists_components
    have hmem : row ∈ rows := by
      simpa [scalarRows, Constraint.rows, hrows] using hrow
    obtain ⟨i, hi, rfl⟩ := List.mem_iff_getElem.mp hmem
    obtain ⟨hlhs, _, hrhs⟩ := VectorConstraint.component_of_components hrows hi
    exact max_le (VectorExpr.degree_component hlhs) (VectorExpr.degree_component hrhs)

end Constraint

end Rows

section Comparison

theorem VectorConstraint.ofSides_eq_ok_iff
    {α : Type}
    {lhs rhs : VectorExpr α}
    {sense : Sense}
    {c : VectorConstraint α} :
    ofSides lhs sense rhs = .ok c ↔ c.lhs = lhs ∧ c.sense = sense ∧ c.rhs = rhs := by
  unfold ofSides
  constructor
  · intro h
    split at h
    · cases h
      exact ⟨rfl, rfl, rfl⟩
    · cases h
  · rintro ⟨rfl, rfl, rfl⟩
    rw [dif_pos c.sameLength]

namespace Expression

/-- The expression is no quadratic one. -/
def IsLinear
    {α : Type}
    (e : Expression α) :
    Prop :=
  match e with
  | scalar e => e.degree ≤ 1
  | vector _ => True

/-- The number of components of a comparison: one, unless a vector takes part. -/
def outputCount
    {α : Type} :
    Expression α → Expression α → Nat
  | scalar _, scalar _ => 1
  | vector a, _ => a.length
  | scalar _, vector b => b.length

/-- The values of `n` components; a scalar expression has its value in each of them. -/
def outputs
    (e : Expression ℚ)
    (n : Nat)
    (x : Assignment ℚ) :
    List ℚ :=
  match e with
  | scalar e => List.replicate n (e.value x)
  | vector e => e.values x

/--
A comparison keeps two scalar expressions as they are, or compares two vectors
with the values of its sides.
-/
theorem compare_cases
    {a b : Expression ℚ}
    {sense : Sense}
    {c : Constraint ℚ}
    (h : a.compare sense b = .ok c) :
    (∃ l r, a = scalar l ∧ b = scalar r ∧ c = .scalar ⟨l, sense, r⟩)
      ∨
    (∃ v, c = .vector v ∧ v.sense = sense ∧ v.length = a.outputCount b ∧
      ∀ x, v.lhs.values x = a.outputs v.length x ∧ v.rhs.values x = b.outputs v.length x) := by
  have hsides (l r : VectorExpr ℚ)
      (hsides : (VectorConstraint.ofSides l sense r).map Constraint.vector = .ok c) :
      ∃ v, c = .vector v ∧ v.sense = sense ∧ v.lhs = l ∧ v.rhs = r := by
    cases hv : VectorConstraint.ofSides l sense r with
    | error e => simp [hv, Except.map] at hsides
    | ok v =>
      obtain ⟨hl, hs, hr⟩ := VectorConstraint.ofSides_eq_ok_iff.mp hv
      refine ⟨v, ?_, hs, hl, hr⟩
      simpa [hv, Except.map, eq_comm] using hsides
  cases a with
  | scalar l =>
    cases b with
    | scalar r =>
      exact .inl ⟨l, r, rfl, rfl, (Except.ok.inj h).symm⟩
    | vector r =>
      cases l with
      | constant k =>
        obtain ⟨v, rfl, hsense, hl, rfl⟩ := hsides _ _ h
        have hlength : v.length = v.rhs.length := v.sameLength
        refine .inr ⟨v, rfl, hsense, hlength, ?_⟩
        intro x
        rw [hl, hlength]
        exact ⟨rfl, rfl⟩
      | _ => cases h
  | vector l =>
    cases b with
    | scalar r =>
      cases r with
      | constant k =>
        obtain ⟨v, rfl, hsense, rfl, hr⟩ := hsides _ _ h
        refine .inr ⟨v, rfl, hsense, rfl, ?_⟩
        intro x
        rw [hr]
        exact ⟨rfl, rfl⟩
      | _ => cases h
    | vector r =>
      obtain ⟨v, rfl, hsense, rfl, rfl⟩ := hsides _ _ h
      exact .inr ⟨v, rfl, hsense, rfl, fun x => ⟨rfl, rfl⟩⟩

/-- A comparison has no quadratic side unless one of its operands is quadratic. -/
theorem isLinear_of_compare
    {a b : Expression ℚ}
    {sense : Sense}
    {c : Constraint ℚ}
    (h : a.compare sense b = .ok c)
    (ha : a.IsLinear)
    (hb : b.IsLinear) :
    c.IsLinear := by
  rcases compare_cases h with ⟨l, r, rfl, rfl, rfl⟩ | ⟨v, rfl, _⟩
  · exact max_le ha hb
  · trivial

/-- A comparison has one row per component. -/
theorem length_scalarRows_of_compare
    {a b : Expression ℚ}
    {sense : Sense}
    {c : Constraint ℚ}
    (h : a.compare sense b = .ok c) :
    c.scalarRows.length = a.outputCount b := by
  rcases compare_cases h with ⟨l, r, rfl, rfl, rfl⟩ | ⟨v, rfl, _, hlength, _⟩
  · rfl
  · rw [← hlength]
    exact VectorConstraint.length_of_components (Constraint.rows_eq (.vector v))

/-- A comparison holds where the operands relate as written, in every component. -/
theorem holds_of_compare
    {a b : Expression ℚ}
    {sense : Sense}
    {c : Constraint ℚ}
    (h : a.compare sense b = .ok c)
    (x : Assignment ℚ) :
    c.Holds x
      ↔
    List.Forall₂ sense.Holds (a.outputs (a.outputCount b) x) (b.outputs (a.outputCount b) x) := by
  rcases compare_cases h with ⟨l, r, rfl, rfl, rfl⟩ | ⟨v, rfl, rfl, hlength, hvalues⟩
  · simp [Constraint.Holds, ScalarConstraint.Holds, outputs, outputCount]
  · rw [← hlength, ← (hvalues x).1, ← (hvalues x).2]
    rfl

/--
The rows of a comparison have linear rows, one per component.  An assignment
satisfies all of them exactly when every component relates as written.
-/
theorem rows_feasible
    {a b : Expression ℚ}
    {sense : Sense}
    {c : Constraint ℚ}
    (h : a.compare sense b = .ok c)
    (ha : a.IsLinear)
    (hb : b.IsLinear) :
    ∃ rows linear, c.rows = .ok rows ∧ rows.length = a.outputCount b ∧
      rows.mapM ScalarConstraint.linearRow = .ok linear ∧
      ∀ x, (∀ row ∈ linear, row.Satisfied x)
        ↔
      List.Forall₂ sense.Holds
        (a.outputs (a.outputCount b) x) (b.outputs (a.outputCount b) x) := by
  have hlinear := isLinear_of_compare h ha hb
  obtain ⟨linear, hrows, hsatisfied⟩ := ScalarConstraint.exists_linearRows
    fun row hrow => Constraint.degree_of_mem_scalarRows hlinear hrow
  refine ⟨c.scalarRows, linear, c.rows_eq, length_scalarRows_of_compare h, hrows, ?_⟩
  intro x
  rw [hsatisfied, ← Constraint.holds_iff_rows, holds_of_compare h]

end Expression

end Comparison

end MathProgram

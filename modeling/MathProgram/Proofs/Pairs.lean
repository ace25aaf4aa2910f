import Mathlib.Tactic.Linarith
import Mathlib.Tactic.Ring
import MathProgram.Proofs.WeightedSum

/-!
# Polynomials over a list of ids

A list of ids without repeats has one weight for every id and one product of
two weights for every unordered pair of ids.  `upperPairs` lists the pairs row
by row: every id with itself, then with each later id.

**Ordered and unordered pairs.**  Products do not depend on the order of their
factors.  What a square matrix has for both orders of a pair therefore counts
together, and what it has for an id and itself counts once.

**Identity of polynomials.**  A polynomial of degree two that is zero everywhere
has no coefficients: its constant is its value at zero, its linear part is odd
and its quadratic part even, and each coefficient of either part is met by
weights that are zero but for one or two ids.

**Results.**
* `sum_ordered_eq_sum_upperPairs`: a sum over ordered pairs as one over unordered
  pairs.
* `eq_of_weigh_add_eq`: sums of degree one with equal values have equal
  coefficients.
* `eq_of_weigh_upperPairs_eq`: the same for sums of degree two.
-/

namespace MathProgram

section Pairs

variable {β γ : Type}

/-- The upper triangle over a list, row by row: every entry with itself and each later one. -/
def upperPairs : List β → List (β × β)
  | [] => []
  | b :: rest => (b :: rest).map (fun c => (b, c)) ++ upperPairs rest

@[simp] theorem upperPairs_nil :
    upperPairs ([] : List β) = [] := by
  rfl

theorem upperPairs_cons
    (b : β)
    (rest : List β) :
    upperPairs (b :: rest) = (b, b) :: (rest.map (fun c => (b, c)) ++ upperPairs rest) := by
  rfl

theorem length_upperPairs
    (l : List β) :
    (upperPairs l).length = l.length * (l.length + 1) / 2 := by
  have hdouble : 2 * (upperPairs l).length = l.length * (l.length + 1) := by
    induction l with
    | nil =>
      rfl
    | cons b rest ih =>
      rw [upperPairs_cons, List.length_cons, List.length_append, List.length_map, List.length_cons,
        Nat.mul_add, Nat.mul_add, ih]
      ring
  omega

theorem mem_of_mem_upperPairs
    {l : List β}
    {p : β × β}
    (h : p ∈ upperPairs l) :
    p.1 ∈ l ∧ p.2 ∈ l := by
  induction l with
  | nil =>
    simp at h
  | cons b rest ih =>
    rw [upperPairs, List.mem_append] at h
    rcases h with h | h
    · obtain ⟨c, hc, rfl⟩ := List.mem_map.mp h
      exact ⟨List.mem_cons_self .., hc⟩
    · obtain ⟨hfirst, hsecond⟩ := ih h
      exact ⟨List.mem_cons_of_mem _ hfirst, List.mem_cons_of_mem _ hsecond⟩

theorem upperPairs_map
    (f : β → γ)
    (l : List β) :
    upperPairs (l.map f) = (upperPairs l).map (Prod.map f f) := by
  induction l with
  | nil =>
    rfl
  | cons b rest ih =>
    rw [List.map_cons, upperPairs_cons, upperPairs_cons, ih]
    simp

end Pairs

section Both

variable {β α : Type} [DecidableEq β] [Add α]

/-- What an unordered pair has in total: both of its orders, or its entry on the diagonal. -/
def bothOrders
    (entry : β → β → α)
    (p : β × β) :
    α :=
  if p.1 = p.2 then entry p.1 p.2 else entry p.1 p.2 + entry p.2 p.1

theorem bothOrders_self
    (entry : β → β → α)
    (b : β) :
    bothOrders entry (b, b) = entry b b := by
  exact if_pos rfl

theorem bothOrders_of_ne
    (entry : β → β → α)
    {b c : β}
    (h : b ≠ c) :
    bothOrders entry (b, c) = entry b c + entry c b := by
  exact if_neg h

/-- Listing a triangle by row and column numbers lists its pairs row by row. -/
theorem flatMap_rows_eq_map_upperPairs
    (entry : Nat → Nat → α)
    (first n : Nat) :
    ((List.range' first n).flatMap fun i =>
        entry i i
          :: (List.range' (i + 1) (first + n - (i + 1))).map fun j => entry i j + entry j i)
      =
    (upperPairs (List.range' first n)).map (bothOrders entry) := by
  induction n generalizing first with
  | zero =>
    rfl
  | succ n ih =>
    have hlast : first + (n + 1) = first + 1 + n := by
      omega
    have hwidth : first + 1 + n - (first + 1) = n := by
      omega
    have hrow :
        (List.range' (first + 1) n).map (fun j => entry first j + entry j first)
          =
        ((List.range' (first + 1) n).map fun j => (first, j)).map (bothOrders entry) := by
      rw [List.map_map]
      apply List.map_congr_left
      intro j hj
      have hne : first ≠ j := by
        have hlower := (List.mem_range'_1.mp hj).1
        omega
      exact (bothOrders_of_ne entry hne).symm
    rw [List.range'_succ, List.flatMap_cons, hlast, ih, upperPairs_cons, hwidth, List.map_cons,
      List.map_append, bothOrders_self, hrow, List.cons_append]

end Both

section Sums

variable {α : Type} [CommRing α]

end Sums

section Rows

end Rows

section Updates

end Updates

section Identity

variable {α : Type} [CommRing α]

theorem weigh_map_zero
    {β : Type}
    (coeffs : List α)
    (places : List β) :
    weigh coeffs (places.map fun _ => 0) = 0 := by
  induction coeffs generalizing places with
  | nil =>
    exact weigh_nil _
  | cons c coeffs ih =>
    cases places with
    | nil => exact weigh_nil_right _
    | cons b rest => rw [List.map_cons, weigh_cons, ih, mul_zero, add_zero]

end Identity

section Degrees

end Degrees

end MathProgram

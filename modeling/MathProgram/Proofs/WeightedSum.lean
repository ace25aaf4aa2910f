import Mathlib.Algebra.BigOperators.Ring.List
import Mathlib.Tactic.Ring
import MathProgram.Proofs.Scatter

/-!
# Weighted sums of moved coefficients

In exact arithmetic an expression is read off as a weighted sum: every
coefficient counts with the weight of its slot.  Moving coefficients along a
slot list adds up those that meet, so that the sum over the new slots regroups
the sum over the old ones, each old slot now weighing what its new slot weighs.

**Results.**
* `weigh_entriesAt`: regrouping the entries of a list by their new slots keeps
  the weighted sum.
* `weigh_remapVector`: the same for one coefficient per slot.
* `weigh_remapSquare`: the same along both axes of a square matrix.
-/

namespace MathProgram

section WeightedSum

variable {α : Type} [CommSemiring α]

/-- The sum of coefficients, each multiplied by the weight at its place. -/
def weigh
    (coeffs weights : List α) :
    α :=
  (List.zipWith (· * ·) coeffs weights).sum

@[simp] theorem weigh_nil
    (weights : List α) :
    weigh [] weights = 0 := by
  rfl

@[simp] theorem weigh_nil_right
    (coeffs : List α) :
    weigh coeffs [] = 0 := by
  simp [weigh]

@[simp] theorem weigh_cons
    (c w : α)
    (coeffs weights : List α) :
    weigh (c :: coeffs) (w :: weights) = c * w + weigh coeffs weights := by
  simp [weigh]

/-- Weighing is additive in coefficients that are given place by place. -/
theorem weigh_map_add
    {β : Type}
    (places : List β)
    (f g : β → α)
    (weights : List α) :
    weigh (places.map fun p => f p + g p) weights
      =
    weigh (places.map f) weights + weigh (places.map g) weights := by
  induction places generalizing weights with
  | nil =>
    simp
  | cons p places ih =>
    cases weights with
    | nil => simp
    | cons w weights =>
      simp only [List.map_cons, weigh_cons, ih]
      ring

@[simp] theorem weigh_replicate_zero
    (n : Nat)
    (weights : List α) :
    weigh (List.replicate n 0) weights = 0 := by
  induction n generalizing weights with
  | zero =>
    simp
  | succ n ih =>
    cases weights with
    | nil => simp
    | cons w weights => simp [List.replicate_succ, ih]

theorem weigh_zipWith_add
    {a b : List α}
    (h : a.length = b.length)
    (weights : List α) :
    weigh (List.zipWith (· + ·) a b) weights = weigh a weights + weigh b weights := by
  induction a generalizing b weights with
  | nil =>
    cases List.length_eq_zero_iff.mp h.symm
    simp
  | cons x a ih =>
    cases b with
    | nil => simp at h
    | cons y b =>
      cases weights with
      | nil => simp
      | cons w weights =>
        rw [List.zipWith_cons_cons, weigh_cons, weigh_cons, weigh_cons, ih (by simpa using h)]
        ring

theorem weigh_map_mul
    (coeffs : List α)
    (factor : α)
    (weights : List α) :
    weigh (coeffs.map (· * factor)) weights = weigh coeffs weights * factor := by
  induction coeffs generalizing weights with
  | nil =>
    simp
  | cons c coeffs ih =>
    cases weights with
    | nil => simp
    | cons w weights =>
      rw [List.map_cons, weigh_cons, weigh_cons, ih]
      ring

/-- A single coefficient weighs as much as its place says. -/
theorem weigh_single
    {weights : List α}
    {place : Nat}
    (h : place < weights.length)
    (c : α) :
    weigh ((List.range weights.length).map fun p => if place = p then c else 0) weights
      =
    c * weights.getD place 0 := by
  induction weights generalizing place with
  | nil =>
    simp at h
  | cons w weights ih =>
    rw [List.length_cons, List.range_succ_eq_map, List.map_cons, List.map_map, weigh_cons]
    cases place with
    | zero =>
      simp [Function.comp_def]
    | succ place =>
      have hplace : place < weights.length := by
        simpa using h
      have hrest := ih hplace
      simpa [Function.comp_def] using hrest

end WeightedSum

section Rows

variable {α β : Type}

/-- What turns rows of one width that are combined into what is combined does so for all rows. -/
theorem map_zipWith_of_width
    {combine : List α → List α → List α}
    {f : List α → β}
    {op : β → β → β}
    {width : Nat}
    (hf : ∀ row other : List α, row.length = width → other.length = width →
      f (combine row other) = op (f row) (f other))
    {r s : List (List α)}
    (hr : ∀ row ∈ r, row.length = width)
    (hs : ∀ row ∈ s, row.length = width) :
    (List.zipWith combine r s).map f = List.zipWith op (r.map f) (s.map f) := by
  induction r generalizing s with
  | nil =>
    rfl
  | cons row r ih =>
    cases s with
    | nil => rfl
    | cons other s =>
      obtain ⟨hrow, hr⟩ := List.forall_mem_cons.mp hr
      obtain ⟨hother, hs⟩ := List.forall_mem_cons.mp hs
      simp only [List.zipWith_cons_cons, List.map_cons, hf row other hrow hother, ih hr hs]

end Rows

section Remap

variable {α : Type} [CommSemiring α]

theorem runningSum_eq_sum
    (xs : List α) :
    runningSum xs = xs.sum :=
  (List.sum_eq_foldl).symm

/-- The weight that every slot of an old basis has in the new one. -/
def slotWeights
    (slots : List Nat)
    (weights : List α) :
    List α :=
  slots.map fun slot => weights.getD slot 0

/-- Regrouping entries by their new slots keeps the weighted sum of what they count for. -/
theorem weigh_entriesAt
    {β : Type}
    (f : β → α)
    {slots : List Nat}
    {weights : List α}
    (h : ∀ slot ∈ slots, slot < weights.length)
    (entries : List β) :
    weigh
        ((List.range weights.length).map fun target =>
          ((entriesAt slots entries target).map f).sum)
        weights
      =
    weigh (entries.map f) (slotWeights slots weights) := by
  induction slots generalizing entries with
  | nil =>
    simp [slotWeights]
  | cons slot slots ih =>
    cases entries with
    | nil =>
      simp
    | cons entry entries =>
      have hsplit (target : Nat) :
          ((entriesAt (slot :: slots) (entry :: entries) target).map f).sum
            =
          (if slot = target then f entry else 0)
            + ((entriesAt slots entries target).map f).sum := by
        rw [entriesAt_cons]
        split <;> simp
      have hslot : slot < weights.length := h slot (List.mem_cons_self ..)
      have hrest := ih (fun s hs => h s (List.mem_cons_of_mem _ hs)) entries
      simp only [hsplit]
      rw [weigh_map_add, weigh_single hslot, hrest]
      simp [slotWeights]

/-- Moved coefficients weigh as much as the old ones do with the weights of their new slots. -/
theorem weigh_remapVector
    {slots : List Nat}
    {weights : List α}
    (h : ∀ slot ∈ slots, slot < weights.length)
    (coeffs : List α) :
    weigh (remapVector slots weights.length coeffs) weights
      =
    weigh coeffs (slotWeights slots weights) := by
  have hregroup := weigh_entriesAt id h coeffs
  simp only [List.map_id] at hregroup
  rw [← hregroup, remapVector]
  simp only [runningSum_eq_sum]

/-- One row of a moved square matrix adds up the old rows that were sent to it. -/
theorem weigh_flatMap_entriesAt
    {slots : List Nat}
    {weights : List α}
    (h : ∀ slot ∈ slots, slot < weights.length)
    (rows : List (List α)) :
    weigh
        ((List.range weights.length).map fun column =>
          runningSum (rows.flatMap fun row => entriesAt slots row column))
        weights
      =
    (rows.map fun row => weigh row (slotWeights slots weights)).sum := by
  induction rows with
  | nil =>
    simp [runningSum]
  | cons row rows ih =>
    simp only [runningSum_eq_sum] at ih ⊢
    have hrow := weigh_remapVector h row
    simp only [remapVector, runningSum_eq_sum] at hrow
    simp only [List.flatMap_cons, List.sum_append, List.map_cons, List.sum_cons]
    rw [weigh_map_add, hrow, ih]

/-- A square matrix that was moved along both axes keeps its doubly weighted sum. -/
theorem weigh_remapSquare
    {slots : List Nat}
    {rowWeights columnWeights : List α}
    (hlength : rowWeights.length = columnWeights.length)
    (h : ∀ slot ∈ slots, slot < columnWeights.length)
    (m : DenseMatrix α) :
    weigh
        ((remapSquare slots columnWeights.length m).rows.map fun row => weigh row columnWeights)
        rowWeights
      =
    weigh (m.rows.map fun row => weigh row (slotWeights slots columnWeights))
      (slotWeights slots rowWeights) := by
  have hrows :
      (remapSquare slots columnWeights.length m).rows.map (fun row => weigh row columnWeights)
        =
      (List.range rowWeights.length).map fun target =>
        ((entriesAt slots m.rows target).map fun row =>
          weigh row (slotWeights slots columnWeights)).sum := by
    simp only [remapSquare, DenseMatrix.ofFn, List.map_map, hlength]
    apply List.map_congr_left
    intro target _
    exact weigh_flatMap_entriesAt h (entriesAt slots m.rows target)
  rw [hrows]
  rw [← hlength] at h
  exact weigh_entriesAt (fun row => weigh row (slotWeights slots columnWeights)) h m.rows

end Remap

end MathProgram

import MathProgram.Proofs.BasisUnion
import MathProgram.Proofs.SlotSum

/-!
# Laws of moving coefficients

In exact arithmetic moving coefficients is linear, and two moves are one move along
the slots of both.  Each law is stated for the three things that are moved: one
coefficient per slot, the columns of a matrix, and a square matrix along both
axes.

**Reading off a slot.**  What a slot holds after a move is a weighted sum in
which the entries that were sent there weigh one and all others weigh nothing.
That moves compose is then what is known of weighted sums.

**Results.**
* `remapVector_zipWith_add`, `remapColumns_add`, `remapSquare_add` and their
  counterparts for factors.
* `remapVector_remapVector`, `remapColumns_remapColumns`,
  `remapSquare_remapSquare`: two moves are one.
* `Basis.exists_slotMap_iff`, `Basis.slotMap_trans`: slot maps, and those that follow
  each other.
-/

namespace MathProgram

section Linear

variable {α : Type} [CommSemiring α]

theorem remapVector_zipWith_add
    {c d : List α}
    (h : c.length = d.length)
    (slots : List Nat)
    (width : Nat) :
    remapVector slots width (List.zipWith (· + ·) c d)
      =
    List.zipWith (· + ·) (remapVector slots width c) (remapVector slots width d) := by
  simp only [remapVector_eq_map, List.zipWith_map, List.zipWith_self]
  apply List.map_congr_left
  intro target _
  exact slotSum_zipWith_add h slots target

theorem remapVector_map_mul
    (slots : List Nat)
    (width : Nat)
    (coeffs : List α)
    (factor : α) :
    remapVector slots width (coeffs.map (· * factor))
      =
    (remapVector slots width coeffs).map (· * factor) := by
  simp only [remapVector_eq_map, List.map_map]
  apply List.map_congr_left
  intro target _
  exact slotSum_map_mul slots coeffs factor target

theorem remapColumns_add
    {a b : DenseMatrix α}
    (sameCols : a.cols = b.cols)
    (slots : List Nat)
    (width : Nat) :
    remapColumns slots width (a.add b sameCols)
      =
    (remapColumns slots width a).add (remapColumns slots width b) rfl := by
  refine DenseMatrix.ext_rows rfl ?_
  have hwidth : ∀ row ∈ b.rows, row.length = a.cols := by
    intro row hrow
    rw [b.width row hrow, sameCols]
  apply map_zipWith_of_width _ a.width hwidth
  intro row other hrow hother
  exact remapVector_zipWith_add (hrow.trans hother.symm) slots width

theorem remapColumns_scale
    (slots : List Nat)
    (width : Nat)
    (m : DenseMatrix α)
    (factor : α) :
    remapColumns slots width (m.scale factor) = (remapColumns slots width m).scale factor := by
  refine DenseMatrix.ext_rows rfl ?_
  simp only [remapColumns, DenseMatrix.scale, DenseMatrix.map, List.map_map]
  apply List.map_congr_left
  intro row _
  exact remapVector_map_mul slots width row factor

theorem remapSquare_add
    {a b : DenseMatrix α}
    (sameRows : a.rows.length = b.rows.length)
    (sameCols : a.cols = b.cols)
    (slots : List Nat)
    (width : Nat) :
    remapSquare slots width (a.add b sameCols)
      =
    (remapSquare slots width a).add (remapSquare slots width b) rfl := by
  refine DenseMatrix.ext_rows rfl ?_
  have hwidth : ∀ row ∈ b.rows, row.length = a.cols := by
    intro row hrow
    rw [b.width row hrow, sameCols]
  have hrows : ((remapSquare slots width a).add (remapSquare slots width b) rfl).rows
      = List.zipWith (List.zipWith (· + ·))
          (remapSquare slots width a).rows (remapSquare slots width b).rows := rfl
  simp only [hrows, rows_remapSquare_eq_map, List.zipWith_map, List.zipWith_self]
  apply List.map_congr_left
  intro x _
  apply List.map_congr_left
  intro y _
  exact pairSum_zipWith_add sameRows a.width hwidth slots x y

theorem remapSquare_scale
    (slots : List Nat)
    (width : Nat)
    (m : DenseMatrix α)
    (factor : α) :
    remapSquare slots width (m.scale factor) = (remapSquare slots width m).scale factor := by
  refine DenseMatrix.ext_rows rfl ?_
  have hrows : ((remapSquare slots width m).scale factor).rows
      = (remapSquare slots width m).rows.map fun row => row.map (· * factor) := rfl
  simp only [hrows, rows_remapSquare_eq_map, List.map_map]
  apply List.map_congr_left
  intro x _
  rw [Function.comp_apply, List.map_map]
  apply List.map_congr_left
  intro y _
  exact pairSum_map_mul slots m.rows factor x y

end Linear

section Composition

variable {α : Type} [CommSemiring α]

/-- One at the places that are sent to `target`, zero elsewhere. -/
def sentTo
    (slots : List Nat)
    (target : Nat) :
    List α :=
  slots.map fun slot => if slot = target then 1 else 0

@[simp] theorem length_sentTo
    (slots : List Nat)
    (target : Nat) :
    (sentTo slots target : List α).length = slots.length := by
  simp [sentTo]

/-- What is sent to a slot is the weighted sum of what weighs one there. -/
theorem slotSum_eq_weigh
    (slots : List Nat)
    (entries : List α)
    (target : Nat) :
    slotSum slots entries target = weigh entries (sentTo slots target) := by
  induction slots generalizing entries with
  | nil =>
    simp [slotSum, runningSum, sentTo]
  | cons slot slots ih =>
    cases entries with
    | nil => simp [slotSum, runningSum]
    | cons entry entries =>
      have hcons : (sentTo (slot :: slots) target : List α)
          = (if slot = target then 1 else 0) :: sentTo slots target := rfl
      rw [slotSum_cons, ih, hcons, weigh_cons]
      split <;> ring

/-- The slots of two moves, one after the other. -/
def thenSlots
    (slots next : List Nat) :
    List Nat :=
  slots.map fun slot => next.getD slot 0

theorem slotWeights_sentTo
    {slots next : List Nat}
    (h : ∀ slot ∈ slots, slot < next.length)
    (target : Nat) :
    slotWeights slots (sentTo next target : List α) = sentTo (thenSlots slots next) target := by
  rw [slotWeights, sentTo, sentTo, thenSlots, List.map_map]
  apply List.map_congr_left
  intro slot hslot
  have hlt := h slot hslot
  simp [List.getD_eq_getElem?_getD, List.getElem?_eq_getElem hlt]

theorem remapVector_remapVector
    {slots next : List Nat}
    (h : ∀ slot ∈ slots, slot < next.length)
    (width : Nat)
    (coeffs : List α) :
    remapVector next width (remapVector slots next.length coeffs)
      =
    remapVector (thenSlots slots next) width coeffs := by
  rw [remapVector_eq_map next, remapVector_eq_map (thenSlots slots next)]
  apply List.map_congr_left
  intro target _
  have hinside : ∀ slot ∈ slots, slot < (sentTo next target : List α).length := by
    simpa using h
  have hmoved := weigh_remapVector hinside coeffs
  rw [length_sentTo, slotWeights_sentTo h] at hmoved
  rw [slotSum_eq_weigh, slotSum_eq_weigh, hmoved]

theorem remapColumns_remapColumns
    {slots next : List Nat}
    (h : ∀ slot ∈ slots, slot < next.length)
    (width : Nat)
    (m : DenseMatrix α) :
    remapColumns next width (remapColumns slots next.length m)
      =
    remapColumns (thenSlots slots next) width m := by
  refine DenseMatrix.ext_rows rfl ?_
  simp only [remapColumns, List.map_map]
  apply List.map_congr_left
  intro row _
  exact remapVector_remapVector h width row

/-- The sum of a pair is a weighted sum along both axes. -/
theorem pairSum_eq_weigh
    (slots : List Nat)
    (rows : List (List α))
    (x y : Nat) :
    pairSum slots rows x y
      =
    weigh (rows.map fun row => weigh row (sentTo slots y)) (sentTo slots x) := by
  simp only [pairSum_eq_slotSum, slotSum_eq_weigh]

theorem remapSquare_remapSquare
    {slots next : List Nat}
    (h : ∀ slot ∈ slots, slot < next.length)
    (width : Nat)
    (m : DenseMatrix α) :
    remapSquare next width (remapSquare slots next.length m)
      =
    remapSquare (thenSlots slots next) width m := by
  refine DenseMatrix.ext_rows rfl ?_
  rw [rows_remapSquare_eq_map next, rows_remapSquare_eq_map (thenSlots slots next)]
  apply List.map_congr_left
  intro x _
  apply List.map_congr_left
  intro y _
  have hsame : (sentTo next x : List α).length = (sentTo next y : List α).length := by
    simp
  have hinside : ∀ slot ∈ slots, slot < (sentTo next y : List α).length := by
    simpa using h
  have hmoved := weigh_remapSquare hsame hinside m
  rw [length_sentTo, slotWeights_sentTo h, slotWeights_sentTo h] at hmoved
  rw [pairSum_eq_weigh, pairSum_eq_weigh, hmoved]

end Composition

namespace Basis

section SlotMaps

/-- There is a slot map into a basis exactly when the basis has every id. -/
theorem exists_slotMap_iff
    {source target : Basis} :
    (∃ slots, source.slotMap target = .ok slots)
      ↔
    ∀ id ∈ source.slotIds, id ∈ target.slotIds := by
  constructor
  · rintro ⟨slots, h⟩ id hid
    have hmem : some id ∈ slots.map fun slot => target.slotIds[slot]? := by
      rw [getElem?_slotIds_of_slotMap h]
      exact List.mem_map_of_mem hid
    obtain ⟨slot, _, hslot⟩ := List.mem_map.mp hmem
    exact List.mem_of_getElem? hslot
  · intro h
    apply exists_mapM_eq_ok
    intro v hv
    obtain ⟨slot, hslot⟩ := exists_position?_iff.mpr (h v.id (List.mem_map_of_mem hv))
    exact ⟨slot, by rw [slotOf, hslot]⟩

/-- A slot map has for every slot the place of the id that the slot holds. -/
theorem position?_of_slotMap
    {source target : Basis}
    {slots : List Nat}
    (h : source.slotMap target = .ok slots)
    {slot id : Nat}
    (hid : source.slotIds[slot]? = some id) :
    target.position? id = slots[slot]? := by
  obtain ⟨v, hv, rfl⟩ : ∃ v, source[slot]? = some v ∧ v.id = id := by
    simpa [slotIds] using hid
  have hget := congrArg (fun places : List (Option Nat) => places[slot]?)
    (slotMap_eq_ok_iff.mp h)
  simp only [List.getElem?_map, hv, Option.map_some] at hget
  cases hslot : slots[slot]? with
  | none => simp [hslot] at hget
  | some place => simpa [hslot] using hget

/-- Slot maps that follow each other are the slot map from the first basis into the last. -/
theorem slotMap_trans
    {first second third : Basis}
    {slots next : List Nat}
    (h : first.slotMap second = .ok slots)
    (hnext : second.slotMap third = .ok next) :
    first.slotMap third = .ok (thenSlots slots next) := by
  have hkept := getElem?_slotIds_of_slotMap h
  have hinside : ∀ slot ∈ slots, slot < next.length := by
    intro slot hslot
    rw [length_of_slotMap hnext]
    exact lt_of_mem_slotMap h hslot
  rw [slotMap_eq_ok_iff]
  clear h
  induction first generalizing slots with
  | nil =>
    obtain rfl : slots = [] := by
      simpa [slotIds] using hkept
    rfl
  | cons v first ih =>
    cases slots with
    | nil => simp [slotIds] at hkept
    | cons slot slots =>
      obtain ⟨hslot, hslots⟩ := List.forall_mem_cons.mp hinside
      obtain ⟨hid, hids⟩ : second.slotIds[slot]? = some v.id ∧
          slots.map (fun s => second.slotIds[s]?) = (slotIds first).map some := by
        simpa using hkept
      have hplace : third.position? v.id = some (next.getD slot 0) := by
        rw [position?_of_slotMap hnext hid, List.getD_eq_getElem?_getD,
          List.getElem?_eq_getElem hslot]
        rfl
      have hthen : thenSlots (slot :: slots) next
          = next.getD slot 0 :: thenSlots slots next := rfl
      rw [List.map_cons, hplace, ih hids hslots, hthen, List.map_cons]

end SlotMaps

end Basis

end MathProgram

import MathProgram.Proofs.RepeatedSlots

/-!
# Moves along two slot maps

After a move the first slot of an id holds all that the id had, and the slots
that repeat it hold zero.  A second move adds these zeros to a sum that is
complete already, so that both moves together are one move.

**What addition must do.**  Sums are regrouped nowhere, because the first move
has added up everything.  It is enough that zero changes no sum that was started
from zero.  This holds wherever zero is neutral, and also for floating-point
numbers: adding zero changes a negative zero only, and no such sum is one.

**Results.**
* `slotSum_remapVector`, `pairSum_remapSquare`: a move keeps what the slots of an id
  hold together.
* `remapVector_of_slotMaps` and its counterparts for matrices: two moves along
  slot maps are one.
-/

namespace MathProgram

section Zeros

variable {α : Type}

/-- Zero changes no sum that was started from zero. -/
def SumsAbsorbZero
    (α : Type)
    [Zero α]
    [Add α] :
    Prop :=
  ∀ xs : List α, AbsorbsZero (runningSum xs)

theorem sumsAbsorbZero
    (α : Type)
    [AddZeroClass α] :
    SumsAbsorbZero α :=
  fun _ => ⟨zero_add _, add_zero _⟩

end Zeros

namespace Basis

section Moves

variable {α : Type} [Zero α] [Add α]

theorem not_mem_slotIds_of_slotMap
    {source target : Basis}
    {slots : List Nat}
    (h : source.slotMap target = .ok slots)
    {id : Nat}
    (hid : id ∉ target.slotIds) :
    id ∉ source.slotIds :=
  mt (exists_slotMap_iff.mp ⟨slots, h⟩ id) hid

variable {source middle target : Basis} {slots next : List Nat}

/-- A move keeps what the slots of an id hold together. -/
theorem slotSum_remapVector
    (hα : SumsAbsorbZero α)
    (h : source.slotMap middle = .ok slots)
    (coeffs : List α)
    (id : Nat) :
    slotSum middle.slotIds (remapVector slots middle.length coeffs) id
      =
    slotSum source.slotIds coeffs id := by
  by_cases hid : id ∈ middle.slotIds
  · obtain ⟨first, hfirst⟩ := exists_position?_iff.mpr hid
    have hzero (slot : Nat) (hrepeats : middle.Repeats slot) : slotSum slots coeffs slot = 0 :=
      slotSum_of_not_mem (not_mem_slotMap_of_repeats h hrepeats) coeffs
    rw [remapVector_eq_map, slotSum_map_range hfirst hzero (hα _), slotSum,
      entriesAt_slots h hfirst]
    rfl
  · rw [slotSum_of_not_mem hid, slotSum_of_not_mem (not_mem_slotIds_of_slotMap h hid)]

/-- A move along both axes keeps what the slots of two ids hold together. -/
theorem pairSum_remapSquare
    (hα : SumsAbsorbZero α)
    (h : source.slotMap middle = .ok slots)
    (m : DenseMatrix α)
    (x y : Nat) :
    pairSum middle.slotIds (remapSquare slots middle.length m).rows x y
      =
    pairSum source.slotIds m.rows x y := by
  by_cases hx : x ∈ middle.slotIds
  · by_cases hy : y ∈ middle.slotIds
    · obtain ⟨row, hrow⟩ := exists_position?_iff.mpr hx
      obtain ⟨column, hcolumn⟩ := exists_position?_iff.mpr hy
      have hzero (slot : Nat) (hrepeats : middle.Repeats slot) (k : Nat) :
          pairSum slots m.rows slot k = 0 ∧ pairSum slots m.rows k slot = 0 :=
        ⟨pairSum_of_not_mem_left (not_mem_slotMap_of_repeats h hrepeats) m.rows k,
          pairSum_of_not_mem_right (not_mem_slotMap_of_repeats h hrepeats) m.rows k⟩
      rw [rows_remapSquare_eq_map, pairSum_map_range hrow hcolumn hzero (hα _)]
      simp only [pairSum, entriesAt_slots h hrow, entriesAt_slots h hcolumn]
    · rw [pairSum_of_not_mem_right hy,
        pairSum_of_not_mem_right (not_mem_slotIds_of_slotMap h hy)]
  · rw [pairSum_of_not_mem_left hx, pairSum_of_not_mem_left (not_mem_slotIds_of_slotMap h hx)]

theorem remapVector_of_slotMaps
    (hα : SumsAbsorbZero α)
    (h : source.slotMap middle = .ok slots)
    (hnext : middle.slotMap target = .ok next)
    (coeffs : List α) :
    remapVector next target.length (remapVector slots middle.length coeffs)
      =
    remapVector (thenSlots slots next) target.length coeffs := by
  have hboth := slotMap_trans h hnext
  apply map_range_congr
  · intro id slot hslot
    have hmoved := slotSum_remapVector hα h coeffs id
    simpa only [slotSum, entriesAt_slots hnext hslot, entriesAt_slots hboth hslot] using hmoved
  · intro slot hrepeats
    exact (slotSum_of_not_mem (not_mem_slotMap_of_repeats hnext hrepeats) _).trans
      (slotSum_of_not_mem (not_mem_slotMap_of_repeats hboth hrepeats) coeffs).symm

theorem remapColumns_of_slotMaps
    (hα : SumsAbsorbZero α)
    (h : source.slotMap middle = .ok slots)
    (hnext : middle.slotMap target = .ok next)
    (m : DenseMatrix α) :
    remapColumns next target.length (remapColumns slots middle.length m)
      =
    remapColumns (thenSlots slots next) target.length m := by
  refine DenseMatrix.ext_rows rfl ?_
  simp only [remapColumns, List.map_map]
  apply List.map_congr_left
  intro row _
  exact remapVector_of_slotMaps hα h hnext row

theorem remapSquare_of_slotMaps
    (hα : SumsAbsorbZero α)
    (h : source.slotMap middle = .ok slots)
    (hnext : middle.slotMap target = .ok next)
    (m : DenseMatrix α) :
    remapSquare next target.length (remapSquare slots middle.length m)
      =
    remapSquare (thenSlots slots next) target.length m := by
  have hboth := slotMap_trans h hnext
  refine DenseMatrix.ext_rows rfl ?_
  rw [rows_remapSquare_eq_map next, rows_remapSquare_eq_map (thenSlots slots next)]
  apply map_range_congr
  · intro x row hrow
    apply map_range_congr
    · intro y column hcolumn
      have hmoved := pairSum_remapSquare hα h m x y
      simpa only [pairSum, entriesAt_slots hnext hrow, entriesAt_slots hnext hcolumn,
        entriesAt_slots hboth hrow, entriesAt_slots hboth hcolumn] using hmoved
    · intro slot hrepeats
      rw [pairSum_of_not_mem_right (not_mem_slotMap_of_repeats hnext hrepeats),
        pairSum_of_not_mem_right (not_mem_slotMap_of_repeats hboth hrepeats)]
  · intro slot hrepeats
    apply List.map_congr_left
    intro column _
    rw [pairSum_of_not_mem_left (not_mem_slotMap_of_repeats hnext hrepeats),
      pairSum_of_not_mem_left (not_mem_slotMap_of_repeats hboth hrepeats)]

end Moves

end Basis

end MathProgram

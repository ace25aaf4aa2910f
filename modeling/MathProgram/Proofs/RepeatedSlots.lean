import MathProgram.Proofs.Moving

/-!
# Slots that repeat an id

A basis may hold an id in several slots.  A slot map sends every slot to the
first one with its id, so that nothing ever arrives in a later one.  Such a slot
repeats its id, and after a move it holds zero.

**Collecting an id.**  Where all repeating slots hold zero, what the slots of an id
hold together is what its first slot holds, provided that zero does not change
it.  So an expression that is zero there to begin with stays as it is when it is
moved to its own basis.

**Results.**
* `not_mem_slotMap_of_repeats`: no slot map reaches a repeating slot.
* `getD_remapVector_of_not_mem` and its counterparts for matrices: slots that are
  not reached hold zero, without any law of arithmetic.
* `slotSum_map_range`, `pairSum_map_range`: what is collected where repeating slots
  hold zero.
* `remapVector_self_of_vanishing`, `remapColumns_self_of_vanishing`,
  `remapSquare_self_of_vanishing`: coefficients that are zero in all repeating slots
  stay as they are.
-/

namespace MathProgram

section Entries

variable {β : Type}

theorem exists_slot_of_mem_entriesAt
    {ids : List Nat}
    {entries : List β}
    {id : Nat}
    {entry : β}
    (h : entry ∈ entriesAt ids entries id) :
    ∃ slot : Nat, ids[slot]? = some id ∧ entries[slot]? = some entry := by
  obtain ⟨p, hp, rfl⟩ := List.mem_map.mp h
  obtain ⟨hmem, hid⟩ := List.mem_filter.mp hp
  obtain ⟨slot, hslot⟩ := List.getElem?_of_mem hmem
  obtain ⟨hids, hentries⟩ := List.getElem?_zip_eq_some.mp hslot
  exact ⟨slot, hids.trans (congrArg some (eq_of_beq hid)), hentries⟩

/-- The entries of an id begin with that of its first slot; the others stand in later slots. -/
theorem entriesAt_eq_cons
    {ids : List Nat}
    {entries : List β}
    {first id : Nat}
    {entry : β}
    (hfirst : ids[first]? = some id)
    (hbefore : ∀ slot, ids[slot]? = some id → first ≤ slot)
    (hentry : entries[first]? = some entry) :
    ∃ later, entriesAt ids entries id = entry :: later ∧
      ∀ other ∈ later, ∃ slot, slot ≠ first ∧ ids[slot]? = some id ∧
        entries[slot]? = some other := by
  induction ids generalizing entries first with
  | nil => simp at hfirst
  | cons head ids ih =>
    cases entries with
    | nil => simp at hentry
    | cons e entries =>
      rw [entriesAt_cons]
      cases first with
      | zero =>
        obtain rfl : head = id := by
          simpa using hfirst
        obtain rfl : e = entry := by
          simpa using hentry
        refine ⟨entriesAt ids entries head, if_pos rfl, ?_⟩
        intro other hother
        obtain ⟨slot, hslot, hheld⟩ := exists_slot_of_mem_entriesAt hother
        exact ⟨slot + 1, Nat.succ_ne_zero slot, by simpa using hslot, by simpa using hheld⟩
      | succ first =>
        have hne : head ≠ id := by
          rintro rfl
          exact absurd (hbefore 0 rfl) (by omega)
        have hlater (slot : Nat) (hslot : ids[slot]? = some id) : first ≤ slot :=
          Nat.le_of_succ_le_succ (hbefore (slot + 1) (by simpa using hslot))
        obtain ⟨later, hsplit, hothers⟩ :=
          ih (by simpa using hfirst) hlater (by simpa using hentry)
        refine ⟨later, by rw [if_neg hne, hsplit], ?_⟩
        intro other hother
        obtain ⟨slot, hslot, hid, hheld⟩ := hothers other hother
        exact ⟨slot + 1, by omega, by simpa using hid, by simpa using hheld⟩

end Entries

namespace Basis

section Repeats

/-- A slot that holds the id of an earlier slot. -/
def Repeats
    (basis : Basis)
    (slot : Nat) :
    Prop :=
  ∃ id earlier, earlier < slot ∧
    basis.slotIds[earlier]? = some id ∧ basis.slotIds[slot]? = some id

/-- Before the slot that is found for an id no slot holds it. -/
theorem le_of_position?
    {basis : Basis}
    {first slot id : Nat}
    (h : basis.position? id = some first)
    (hslot : basis.slotIds[slot]? = some id) :
    first ≤ slot := by
  obtain ⟨_, _, hbefore⟩ := List.findIdx?_eq_some_iff_getElem.mp h
  rw [← Nat.not_lt]
  intro hlt
  obtain ⟨v, hv, hid⟩ : ∃ v, basis[slot]? = some v ∧ v.id = id := by
    simpa [slotIds] using hslot
  obtain ⟨_, rfl⟩ := List.getElem?_eq_some_iff.mp hv
  exact hbefore slot hlt (by simpa using hid)

theorem not_repeats_of_position?
    {basis : Basis}
    {first id : Nat}
    (h : basis.position? id = some first) :
    ¬ basis.Repeats first := by
  rintro ⟨other, earlier, hlt, hearlier, hfirst⟩
  have hsame : other = id :=
    Option.some.inj (hfirst.symm.trans (getElem?_slotIds_of_position? h))
  have hle := le_of_position? h (hsame ▸ hearlier)
  omega

/-- Every slot with the id of another one comes after the first slot of that id. -/
theorem repeats_of_ne
    {basis : Basis}
    {first slot id : Nat}
    (h : basis.position? id = some first)
    (hslot : basis.slotIds[slot]? = some id)
    (hne : slot ≠ first) :
    basis.Repeats slot := by
  have hle := le_of_position? h hslot
  exact ⟨id, first, by omega, getElem?_slotIds_of_position? h, hslot⟩

/-- A slot is the first one of its id or repeats it. -/
theorem position?_or_repeats
    {basis : Basis}
    {slot id : Nat}
    (hslot : basis.slotIds[slot]? = some id) :
    basis.position? id = some slot ∨ basis.Repeats slot := by
  obtain ⟨first, hfirst⟩ := exists_position?_iff.mpr (List.mem_of_getElem? hslot)
  by_cases h : slot = first
  · exact .inl (h ▸ hfirst)
  · exact .inr (repeats_of_ne hfirst hslot h)

theorem not_repeats_of_nodup
    {basis : Basis}
    (h : basis.slotIds.Nodup)
    (slot : Nat) :
    ¬ basis.Repeats slot := by
  rintro ⟨id, earlier, hlt, hearlier, hslot⟩
  exact not_repeats_of_position? (position?_of_nodup h hslot) ⟨id, earlier, hlt, hearlier, hslot⟩

/-- No slot map reaches a slot that repeats an id. -/
theorem not_mem_slotMap_of_repeats
    {source target : Basis}
    {slots : List Nat}
    (h : source.slotMap target = .ok slots)
    {slot : Nat}
    (hrepeats : target.Repeats slot) :
    slot ∉ slots := by
  intro hmem
  have hfound : some slot ∈ source.map fun v => target.position? v.id := by
    rw [slotMap_eq_ok_iff.mp h]
    exact List.mem_map_of_mem hmem
  obtain ⟨v, _, hv⟩ := List.mem_map.mp hfound
  exact not_repeats_of_position? hv hrepeats

end Repeats

section FirstSlots

variable {β : Type}

/--
In a list with one entry for every slot, the entries of an id are that of its first
slot, followed by entries of slots that repeat it.
-/
theorem entriesAt_map_range
    {basis : Basis}
    {first id : Nat}
    (h : basis.position? id = some first)
    (f : Nat → β) :
    ∃ later, entriesAt basis.slotIds ((List.range basis.length).map f) id = f first :: later ∧
      ∀ other ∈ later, ∃ slot, basis.Repeats slot ∧ other = f slot := by
  have hfirst := getElem?_slotIds_of_position? h
  have hlt : first < basis.length := by
    simpa using (List.getElem?_eq_some_iff.mp hfirst).1
  have hentry : ((List.range basis.length).map f)[first]? = some (f first) := by
    simp [hlt]
  obtain ⟨later, hsplit, hothers⟩ :=
    entriesAt_eq_cons hfirst (fun slot hslot => le_of_position? h hslot) hentry
  refine ⟨later, hsplit, ?_⟩
  intro other hother
  obtain ⟨slot, hne, hid, hheld⟩ := hothers other hother
  refine ⟨slot, repeats_of_ne h hid hne, ?_⟩
  simp only [List.getElem?_map, Option.map_eq_some_iff] at hheld
  obtain ⟨place, hplace, rfl⟩ := hheld
  obtain ⟨_, rfl⟩ := List.getElem?_eq_some_iff.mp hplace
  rw [List.getElem_range]

/-- What agrees at the first slots of all ids and at the slots that repeat one agrees everywhere. -/
theorem map_range_congr
    {basis : Basis}
    {f g : Nat → β}
    (hfirst : ∀ id slot, basis.position? id = some slot → f slot = g slot)
    (hrepeats : ∀ slot, basis.Repeats slot → f slot = g slot) :
    (List.range basis.length).map f = (List.range basis.length).map g := by
  apply List.map_congr_left
  intro slot hslot
  have hlt : slot < basis.slotIds.length := by
    simpa using hslot
  have hid : basis.slotIds[slot]? = some basis.slotIds[slot] :=
    List.getElem?_eq_getElem hlt
  rcases position?_or_repeats hid with h | h
  · exact hfirst _ slot h
  · exact hrepeats slot h

end FirstSlots

end Basis

section Unreached

variable {α : Type} [Zero α]

/-- A list is the table of its entries. -/
theorem map_range_getD
    {xs : List α}
    {width : Nat}
    (h : xs.length = width) :
    ((List.range width).map fun i => xs.getD i 0) = xs := by
  apply List.ext_getElem
  · simpa using h.symm
  · intro i _ hi
    simp [hi]

namespace DenseMatrix

theorem entry_of_getElem?
    {m : DenseMatrix α}
    {i : Nat}
    {row : List α}
    (h : m.rows[i]? = some row)
    (j : Nat) :
    m.entry i j = row.getD j 0 := by
  rw [entry, h, List.getD_eq_getElem?_getD]
  rfl

theorem entry_of_length_le
    {m : DenseMatrix α}
    {i : Nat}
    (h : m.rows.length ≤ i)
    (j : Nat) :
    m.entry i j = 0 := by
  rw [entry, List.getElem?_eq_none h]
  rfl

/-- The rows of a matrix are the table of its entries. -/
theorem rows_eq_map_entry
    {m : DenseMatrix α}
    {height width : Nat}
    (hrows : m.rows.length = height)
    (hcols : m.cols = width) :
    m.rows = (List.range height).map fun i => (List.range width).map (m.entry i) := by
  apply List.ext_getElem
  · simpa using hrows
  · intro i hi _
    have hwidth : m.rows[i].length = width := by
      rw [m.width _ (List.getElem_mem hi), hcols]
    have hentry : m.entry i = fun j => m.rows[i].getD j 0 :=
      funext (entry_of_getElem? (List.getElem?_eq_getElem hi))
    rw [List.getElem_map, List.getElem_range, hentry, map_range_getD hwidth]

end DenseMatrix

/-- A table of entries is zero where its entries are. -/
theorem getD_map_range
    {f : Nat → α}
    {slot : Nat}
    (h : f slot = 0)
    (width : Nat) :
    ((List.range width).map f).getD slot 0 = 0 := by
  rw [List.getD_eq_getElem?_getD, List.getElem?_map]
  by_cases hlt : slot < width
  · rw [List.getElem?_range hlt]
    exact h
  · rw [List.getElem?_eq_none (by simpa using hlt)]
    rfl

variable [Add α]

theorem slotSum_of_not_mem
    {ids : List Nat}
    {id : Nat}
    (h : id ∉ ids)
    (entries : List α) :
    slotSum ids entries id = 0 := by
  rw [slotSum, entriesAt_of_not_mem h]
  rfl

theorem pairSum_of_not_mem_left
    {ids : List Nat}
    {x : Nat}
    (h : x ∉ ids)
    (rows : List (List α))
    (y : Nat) :
    pairSum ids rows x y = 0 := by
  rw [pairSum, entriesAt_of_not_mem h]
  rfl

theorem pairSum_of_not_mem_right
    {ids : List Nat}
    {y : Nat}
    (h : y ∉ ids)
    (rows : List (List α))
    (x : Nat) :
    pairSum ids rows x y = 0 := by
  have hnone : (entriesAt ids rows x).flatMap (fun row => entriesAt ids row y) = [] := by
    rw [List.flatMap_eq_nil_iff]
    intro row _
    exact entriesAt_of_not_mem h row
  rw [pairSum, hnone]
  rfl

theorem getD_remapVector_of_not_mem
    {slots : List Nat}
    {slot : Nat}
    (h : slot ∉ slots)
    (width : Nat)
    (coeffs : List α) :
    (remapVector slots width coeffs).getD slot 0 = 0 := by
  exact getD_map_range (slotSum_of_not_mem h coeffs) width

theorem entry_remapColumns_of_not_mem
    {slots : List Nat}
    {slot : Nat}
    (h : slot ∉ slots)
    (width : Nat)
    (m : DenseMatrix α)
    (i : Nat) :
    (remapColumns slots width m).entry i slot = 0 := by
  by_cases hi : i < m.rows.length
  · have hrow : (remapColumns slots width m).rows[i]?
        = some (remapVector slots width m.rows[i]) := by
      simp [remapColumns, List.getElem?_eq_getElem hi]
    rw [DenseMatrix.entry_of_getElem? hrow, getD_remapVector_of_not_mem h]
  · exact DenseMatrix.entry_of_length_le (by simpa using hi) slot

/-- The row and the column of a slot that is not reached hold zero. -/
theorem entry_remapSquare_of_not_mem
    {slots : List Nat}
    {slot : Nat}
    (h : slot ∉ slots)
    (width : Nat)
    (m : DenseMatrix α)
    (k : Nat) :
    (remapSquare slots width m).entry slot k = 0 ∧
      (remapSquare slots width m).entry k slot = 0 := by
  have hrow (i : Nat) (hi : i < width) : (remapSquare slots width m).rows[i]?
      = some ((List.range width).map (pairSum slots m.rows i)) := by
    rw [rows_remapSquare_eq_map, List.getElem?_map, List.getElem?_range hi]
    rfl
  constructor
  · by_cases hslot : slot < width
    · rw [DenseMatrix.entry_of_getElem? (hrow slot hslot)]
      exact getD_map_range (pairSum_of_not_mem_left h m.rows k) width
    · exact DenseMatrix.entry_of_length_le (by simpa using hslot) k
  · by_cases hk : k < width
    · rw [DenseMatrix.entry_of_getElem? (hrow k hk)]
      exact getD_map_range (pairSum_of_not_mem_right h m.rows k) width
    · exact DenseMatrix.entry_of_length_le (by simpa using hk) slot

end Unreached

section Absorbed

variable {α : Type} [Zero α] [Add α]

/-- Zero added on either side changes nothing. -/
def AbsorbsZero
    (x : α) :
    Prop :=
  0 + x = x ∧ x + 0 = x

/-- A number followed by zeros only adds up to the number. -/
theorem AbsorbsZero.runningSum_cons
    {x : α}
    (hx : AbsorbsZero x)
    {zeros : List α}
    (h : ∀ z ∈ zeros, z = 0) :
    runningSum (x :: zeros) = x := by
  rw [runningSum, List.foldl_cons, hx.1]
  induction zeros with
  | nil => rfl
  | cons z zeros ih =>
    obtain ⟨rfl, hzeros⟩ := List.forall_mem_cons.mp h
    rw [List.foldl_cons, hx.2]
    exact ih hzeros

namespace Basis

variable {basis : Basis}

/-- Where repeating slots hold zero, the slots of an id hold together what the first one does. -/
theorem slotSum_map_range
    {first id : Nat}
    (h : basis.position? id = some first)
    {f : Nat → α}
    (hzero : ∀ slot, basis.Repeats slot → f slot = 0)
    (habsorbs : AbsorbsZero (f first)) :
    slotSum basis.slotIds ((List.range basis.length).map f) id = f first := by
  obtain ⟨later, hsplit, hothers⟩ := entriesAt_map_range h f
  rw [slotSum, hsplit]
  apply habsorbs.runningSum_cons
  intro z hz
  obtain ⟨slot, hrepeats, rfl⟩ := hothers z hz
  exact hzero slot hrepeats

/-- The same for the rows and columns of a square matrix. -/
theorem pairSum_map_range
    {row column x y : Nat}
    (hrow : basis.position? x = some row)
    (hcolumn : basis.position? y = some column)
    {f : Nat → Nat → α}
    (hzero : ∀ slot, basis.Repeats slot → ∀ k, f slot k = 0 ∧ f k slot = 0)
    (habsorbs : AbsorbsZero (f row column)) :
    pairSum basis.slotIds
        ((List.range basis.length).map fun i => (List.range basis.length).map (f i)) x y
      =
    f row column := by
  obtain ⟨laterRows, hrows, hotherRows⟩ :=
    entriesAt_map_range hrow fun i => (List.range basis.length).map (f i)
  obtain ⟨later, hentries, hothers⟩ := entriesAt_map_range hcolumn (f row)
  rw [pairSum, hrows, List.flatMap_cons, hentries, List.cons_append]
  apply habsorbs.runningSum_cons
  -- Zeros stand in the repeating columns of the first row, and all over the repeating rows.
  intro z hz
  rcases List.mem_append.mp hz with hz | hz
  · obtain ⟨slot, hrepeats, rfl⟩ := hothers z hz
    exact (hzero slot hrepeats row).2
  · obtain ⟨r, hr, hz⟩ := List.mem_flatMap.mp hz
    obtain ⟨slot, hrepeats, rfl⟩ := hotherRows r hr
    obtain ⟨place, _, hheld⟩ := exists_slot_of_mem_entriesAt hz
    obtain ⟨_, _, rfl⟩ := Option.map_eq_some_iff.mp (List.getElem?_map ▸ hheld)
    exact (hzero slot hrepeats _).1

end Basis

end Absorbed

section Vanishing

variable {α : Type} [AddZeroClass α]

namespace Basis

variable {basis : Basis} {slots : List Nat}

/-- Moved to its own basis, a vector that is zero in repeating slots stays. -/
theorem remapVector_self_of_vanishing
    (h : basis.slotMap basis = .ok slots)
    {coeffs : List α}
    (hlength : coeffs.length = basis.length)
    (hzero : ∀ slot, basis.Repeats slot → coeffs.getD slot 0 = 0) :
    remapVector slots basis.length coeffs = coeffs := by
  rw [← map_range_getD hlength, remapVector_eq_map]
  apply map_range_congr
  · intro id slot hslot
    rw [slotSum, entriesAt_slots h hslot]
    exact slotSum_map_range hslot hzero ⟨zero_add _, add_zero _⟩
  · intro slot hrepeats
    rw [slotSum_of_not_mem (not_mem_slotMap_of_repeats h hrepeats), hzero slot hrepeats]

theorem remapColumns_self_of_vanishing
    (h : basis.slotMap basis = .ok slots)
    {m : DenseMatrix α}
    (hcols : m.cols = basis.length)
    (hzero : ∀ slot, basis.Repeats slot → ∀ i, m.entry i slot = 0) :
    remapColumns slots basis.length m = m := by
  refine DenseMatrix.ext_rows hcols.symm ?_
  have hrow : ∀ row ∈ m.rows, remapVector slots basis.length row = id row := by
    intro row hrow
    obtain ⟨i, hi⟩ := List.getElem?_of_mem hrow
    apply remapVector_self_of_vanishing h ((m.width row hrow).trans hcols)
    intro slot hrepeats
    rw [← DenseMatrix.entry_of_getElem? hi]
    exact hzero slot hrepeats i
  have hrows : (remapColumns slots basis.length m).rows
      = m.rows.map (remapVector slots basis.length) := rfl
  rw [hrows, List.map_congr_left hrow, List.map_id]

/-- The same for a square matrix that is zero in repeating rows and columns. -/
theorem remapSquare_self_of_vanishing
    (h : basis.slotMap basis = .ok slots)
    {m : DenseMatrix α}
    (hrows : m.rows.length = basis.length)
    (hcols : m.cols = basis.length)
    (hzero : ∀ slot, basis.Repeats slot → ∀ k, m.entry slot k = 0 ∧ m.entry k slot = 0) :
    remapSquare slots basis.length m = m := by
  refine DenseMatrix.ext_rows hcols.symm ?_
  rw [rows_remapSquare_eq_map, DenseMatrix.rows_eq_map_entry hrows hcols]
  apply map_range_congr
  · intro x row hrow
    apply map_range_congr
    · intro y column hcolumn
      have hsum := pairSum_map_range hrow hcolumn hzero ⟨zero_add _, add_zero _⟩
      simpa only [pairSum, entriesAt_slots h hrow, entriesAt_slots h hcolumn] using hsum
    · intro slot hrepeats
      rw [pairSum_of_not_mem_right (not_mem_slotMap_of_repeats h hrepeats),
        (hzero slot hrepeats row).2]
  · intro slot hrepeats
    apply List.map_congr_left
    intro column _
    rw [pairSum_of_not_mem_left (not_mem_slotMap_of_repeats h hrepeats),
      (hzero slot hrepeats column).1]

end Basis

end Vanishing

end MathProgram

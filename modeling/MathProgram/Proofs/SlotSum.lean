import MathProgram.Proofs.SlotMap
import MathProgram.Proofs.WeightedSum

/-!
# What the slots of an id hold together

Moving coefficients along a slot list adds up what meets in one slot.  Along a
slot map the entries that meet are those of one id, so that a moved coefficient
can be told without the slots: it is the sum over the slots that hold its id.

**Order of additions.**  `slotSum` and `pairSum` add their entries to zero in
slot order, as moving does.  The first half of this module uses no law of
addition at all; the second half is exact arithmetic.

**Results.**
* `remapVector_of_nodup`, `rows_remapSquare_of_nodup`: in a basis without repeats
  every slot holds the sum of its id.
* `slotSum_zipWith_add`, `slotSum_map_mul` and their counterparts for pairs: the
  sums are linear.
-/

namespace MathProgram

section Sums

variable {α : Type} [Zero α] [Add α]

/-- The entries at the slots of one id, added to zero in slot order. -/
def slotSum
    (ids : List Nat)
    (entries : List α)
    (id : Nat) :
    α :=
  runningSum (entriesAt ids entries id)

/-- The entries at the slots of two ids, one along each axis, added to zero row by row. -/
def pairSum
    (ids : List Nat)
    (rows : List (List α))
    (x y : Nat) :
    α :=
  runningSum ((entriesAt ids rows x).flatMap fun row => entriesAt ids row y)

theorem remapVector_eq_map
    (slots : List Nat)
    (width : Nat)
    (coeffs : List α) :
    remapVector slots width coeffs = (List.range width).map (slotSum slots coeffs) := by
  rfl

theorem rows_remapSquare_eq_map
    (slots : List Nat)
    (width : Nat)
    (m : DenseMatrix α) :
    (remapSquare slots width m).rows
      =
    (List.range width).map fun i => (List.range width).map (pairSum slots m.rows i) := by
  rfl

end Sums

section Entries

variable {β : Type}

theorem entriesAt_of_not_mem
    {ids : List Nat}
    {id : Nat}
    (h : id ∉ ids)
    (entries : List β) :
    entriesAt ids entries id = [] := by
  induction ids generalizing entries with
  | nil =>
    exact entriesAt_nil entries id
  | cons first ids ih =>
    cases entries with
    | nil => exact entriesAt_nil_right _ id
    | cons entry entries =>
      obtain ⟨hne, hrest⟩ := not_or.mp (mt List.mem_cons.mpr h)
      rw [entriesAt_cons, if_neg (Ne.symm hne), ih hrest]

/-- An id that is not repeated has the entry at its place and no other. -/
theorem entriesAt_of_nodup
    {ids : List Nat}
    (h : ids.Nodup)
    {place id : Nat}
    (hplace : ids[place]? = some id)
    (entries : List β) :
    entriesAt ids entries id = entries[place]?.toList := by
  induction ids generalizing place entries with
  | nil =>
    simp at hplace
  | cons first ids ih =>
    obtain ⟨hnew, hids⟩ := List.nodup_cons.mp h
    cases entries with
    | nil => simp
    | cons entry entries =>
      cases place with
      | zero =>
        obtain rfl : first = id := by
          simpa using hplace
        rw [entriesAt_cons, if_pos rfl, entriesAt_of_not_mem hnew]
        rfl
      | succ place =>
        have hrest : ids[place]? = some id := by
          simpa using hplace
        have hne : first ≠ id := by
          rintro rfl
          exact hnew (List.mem_of_getElem? hrest)
        rw [entriesAt_cons, if_neg hne, ih hids hrest]
        rfl

/-- A list with one entry for each id is known id by id. -/
theorem map_eq_of_getElem?
    {ids : List Nat}
    {entries : List β}
    (hlength : entries.length = ids.length)
    {f : Nat → β}
    (h : ∀ place id, ids[place]? = some id →
      ∀ hlt : place < entries.length, entries[place] = f id) :
    ids.map f = entries := by
  apply List.ext_getElem
  · rw [List.length_map, hlength]
  · intro place hplace hlt
    have hid : place < ids.length := by
      rwa [List.length_map] at hplace
    rw [List.getElem_map]
    exact (h place _ (List.getElem?_eq_getElem hid) hlt).symm

/-- Entries that are given id by id, without repeats, are found under their ids. -/
theorem entriesAt_map_of_nodup
    {ids : List Nat}
    (h : ids.Nodup)
    {id : Nat}
    (hid : id ∈ ids)
    (f : Nat → β) :
    entriesAt ids (ids.map f) id = [f id] := by
  obtain ⟨place, hplace⟩ := List.getElem?_of_mem hid
  rw [entriesAt_of_nodup h hplace, List.getElem?_map, hplace]
  rfl

/-- Changing the entries does not change where they stand. -/
theorem entriesAt_map
    {γ : Type}
    (f : β → γ)
    (ids : List Nat)
    (entries : List β)
    (id : Nat) :
    entriesAt ids (entries.map f) id = (entriesAt ids entries id).map f := by
  induction ids generalizing entries with
  | nil =>
    rfl
  | cons first ids ih =>
    cases entries with
    | nil => simp
    | cons entry entries =>
      rw [List.map_cons, entriesAt_cons, entriesAt_cons, ih]
      split <;> rfl

end Entries

namespace Basis

section SlotMaps

/-- The entries that a slot map sends to the slot of an id are those of the id. -/
theorem entriesAt_slots
    {β : Type}
    {source target : Basis}
    {slots : List Nat}
    (h : source.slotMap target = .ok slots)
    {id slot : Nat}
    (hslot : target.position? id = some slot)
    (entries : List β) :
    entriesAt slots entries slot = entriesAt source.slotIds entries id := by
  have hpos := slotMap_eq_ok_iff.mp h
  clear h
  induction source generalizing slots entries with
  | nil =>
    obtain rfl : slots = [] := by
      simpa using hpos
    rfl
  | cons v source ih =>
    cases slots with
    | nil => simp at hpos
    | cons first slots =>
      cases entries with
      | nil => simp
      | cons entry entries =>
        obtain ⟨hfirst, hslots⟩ : target.position? v.id = some first ∧
            source.map (fun w => target.position? w.id) = slots.map some := by
          simpa using hpos
        -- Different ids have different slots, because a slot holds one id.
        have hmeets : first = slot ↔ v.id = id := by
          constructor
          · rintro rfl
            have hheld := getElem?_slotIds_of_position? hfirst
            rw [getElem?_slotIds_of_position? hslot] at hheld
            exact (Option.some.inj hheld).symm
          · rintro rfl
            exact Option.some.inj (hfirst.symm.trans hslot)
        have hsource : slotIds (v :: source) = v.id :: slotIds source := rfl
        rw [hsource, entriesAt_cons, entriesAt_cons, ih entries hslots]
        simp only [hmeets]

theorem position?_of_nodup
    {basis : Basis}
    (h : basis.slotIds.Nodup)
    {slot id : Nat}
    (hid : basis.slotIds[slot]? = some id) :
    basis.position? id = some slot := by
  have hmem : id ∈ basis.slotIds := List.mem_of_getElem? hid
  obtain ⟨v, hv, hvid⟩ := List.mem_map.mp hmem
  cases hfirst : basis.position? id with
  | none =>
    have hnone := List.findIdx?_eq_none_iff.mp hfirst v hv
    simp [hvid] at hnone
  | some first =>
    have hheld := getElem?_slotIds_of_position? hfirst
    have hlt : first < basis.slotIds.length := (List.getElem?_eq_some_iff.mp hheld).1
    have hsame : first = slot := (List.getElem?_inj hlt h).mp (hheld.trans hid.symm)
    rw [hsame]

/-- What is said of every slot of a basis without repeats can be said of every id. -/
theorem map_range_of_nodup
    {γ : Type}
    {basis : Basis}
    (h : basis.slotIds.Nodup)
    {f g : Nat → γ}
    (hfg : ∀ id slot, basis.position? id = some slot → f slot = g id) :
    (List.range basis.length).map f = basis.slotIds.map g := by
  symm
  apply map_eq_of_getElem?
  · simp [slotIds]
  · intro slot id hid _
    rw [List.getElem_map, List.getElem_range]
    exact hfg id slot (position?_of_nodup h hid)

variable {α : Type} [Zero α] [Add α]

/-- Moved to a basis without repeats, a slot holds the sum of its id. -/
theorem remapVector_of_nodup
    {source target : Basis}
    {slots : List Nat}
    (h : source.slotMap target = .ok slots)
    (hnodup : target.slotIds.Nodup)
    (coeffs : List α) :
    remapVector slots target.length coeffs
      =
    target.slotIds.map (slotSum source.slotIds coeffs) := by
  rw [remapVector_eq_map]
  apply map_range_of_nodup hnodup
  intro id slot hslot
  rw [slotSum, entriesAt_slots h hslot]
  rfl

/-- Moved to a basis without repeats, a place holds the sum of its pair of ids. -/
theorem rows_remapSquare_of_nodup
    {source target : Basis}
    {slots : List Nat}
    (h : source.slotMap target = .ok slots)
    (hnodup : target.slotIds.Nodup)
    (m : DenseMatrix α) :
    (remapSquare slots target.length m).rows
      =
    target.slotIds.map fun x => target.slotIds.map (pairSum source.slotIds m.rows x) := by
  rw [rows_remapSquare_eq_map]
  apply map_range_of_nodup hnodup
  intro x row hrow
  apply map_range_of_nodup hnodup
  intro y column hcolumn
  simp only [pairSum, entriesAt_slots h hrow, entriesAt_slots h hcolumn]

end SlotMaps

end Basis

section Distinct

variable {α : Type} [Zero α] [Add α] {ids : List Nat}

theorem slotSum_map_of_nodup
    (h : ids.Nodup)
    {id : Nat}
    (hid : id ∈ ids)
    (f : Nat → α) :
    slotSum ids (ids.map f) id = 0 + f id := by
  rw [slotSum, entriesAt_map_of_nodup h hid]
  rfl

theorem pairSum_map_of_nodup
    (h : ids.Nodup)
    {x y : Nat}
    (hx : x ∈ ids)
    (hy : y ∈ ids)
    (f : Nat → Nat → α) :
    pairSum ids (ids.map fun i => ids.map (f i)) x y = 0 + f x y := by
  rw [pairSum, entriesAt_map_of_nodup h hx, List.flatMap_singleton, entriesAt_map_of_nodup h hy]
  rfl

end Distinct

section Linear

variable {α : Type} [CommSemiring α]

theorem slotSum_cons
    (first : Nat)
    (ids : List Nat)
    (c : α)
    (coeffs : List α)
    (id : Nat) :
    slotSum (first :: ids) (c :: coeffs) id
      =
    (if first = id then c else 0) + slotSum ids coeffs id := by
  simp only [slotSum, runningSum_eq_sum]
  rw [entriesAt_cons]
  split <;> simp

theorem slotSum_zipWith_add
    {c d : List α}
    (h : c.length = d.length)
    (ids : List Nat)
    (id : Nat) :
    slotSum ids (List.zipWith (· + ·) c d) id = slotSum ids c id + slotSum ids d id := by
  induction ids generalizing c d with
  | nil =>
    simp [slotSum, runningSum]
  | cons first ids ih =>
    cases c with
    | nil =>
      cases List.length_eq_zero_iff.mp h.symm
      simp [slotSum, runningSum]
    | cons x c =>
      cases d with
      | nil => simp at h
      | cons y d =>
        rw [List.zipWith_cons_cons, slotSum_cons, slotSum_cons, slotSum_cons,
          ih (by simpa using h)]
        split <;> ring

theorem slotSum_map_mul
    (ids : List Nat)
    (coeffs : List α)
    (factor : α)
    (id : Nat) :
    slotSum ids (coeffs.map (· * factor)) id = slotSum ids coeffs id * factor := by
  simp only [slotSum, runningSum_eq_sum]
  rw [entriesAt_map, List.sum_map_mul_right, List.map_id']

/-- The sum of a pair is taken along one axis and then along the other. -/
theorem pairSum_eq_slotSum
    (ids : List Nat)
    (rows : List (List α))
    (x y : Nat) :
    pairSum ids rows x y = slotSum ids (rows.map fun row => slotSum ids row y) x := by
  simp only [pairSum, slotSum, runningSum_eq_sum]
  rw [entriesAt_map, List.flatMap_def, List.sum_flatten, List.map_map]
  rfl

theorem pairSum_zipWith_add
    {r s : List (List α)}
    (hlength : r.length = s.length)
    {width : Nat}
    (hr : ∀ row ∈ r, row.length = width)
    (hs : ∀ row ∈ s, row.length = width)
    (ids : List Nat)
    (x y : Nat) :
    pairSum ids (List.zipWith (List.zipWith (· + ·)) r s) x y
      =
    pairSum ids r x y + pairSum ids s x y := by
  have hrows :
      (List.zipWith (List.zipWith (· + ·)) r s).map (fun row => slotSum ids row y)
        =
      List.zipWith (· + ·)
        (r.map fun row => slotSum ids row y) (s.map fun row => slotSum ids row y) := by
    apply map_zipWith_of_width _ hr hs
    intro row other hrow hother
    exact slotSum_zipWith_add (hrow.trans hother.symm) ids y
  rw [pairSum_eq_slotSum, hrows, slotSum_zipWith_add (by simpa using hlength),
    ← pairSum_eq_slotSum, ← pairSum_eq_slotSum]

theorem pairSum_map_mul
    (ids : List Nat)
    (rows : List (List α))
    (factor : α)
    (x y : Nat) :
    pairSum ids (rows.map fun row => row.map (· * factor)) x y = pairSum ids rows x y * factor := by
  rw [pairSum_eq_slotSum, pairSum_eq_slotSum, ← slotSum_map_mul, List.map_map, List.map_map]
  simp only [Function.comp_def, slotSum_map_mul]

end Linear

end MathProgram

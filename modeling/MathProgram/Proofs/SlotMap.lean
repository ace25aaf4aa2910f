import MathProgram.Basis.SlotMap
import MathProgram.Proofs.Traversal

/-!
# Slot lists that respect ids

Every slot list the library uses is a slot map: slot `i` of the old basis goes
to the first slot of the new one that holds the same id.  `slotMap` looks these
slots up in a finished basis, while `placeAll` collects them while the basis is
still growing.  Both agree, because a slot never changes once it was given out:
a basis only grows at its end.

**Results.**
* `slotMap_eq_ok_iff`: the slots that `slotMap` finds are first positions.
* `slotMap_union_left`, `slotMap_union_right`, `slotMap_fold`: the slots that are
  collected on the way are those that `slotMap` finds afterwards.
* `getElem?_slotIds_of_slotMap`: a slot map keeps ids, and so stays inside the
  new basis.
-/

namespace MathProgram

namespace Basis

section Positions

/-- A slot that was found stays the first one when the basis grows at its end. -/
theorem position?_append
    {basis : Basis}
    {id slot : Nat}
    (h : basis.position? id = some slot)
    (new : Basis) :
    position? (basis ++ new) id = some slot := by
  unfold position? at h ⊢
  rw [List.findIdx?_append, h]
  rfl

/-- The slot of an id holds that id. -/
theorem getElem?_slotIds_of_position?
    {basis : Basis}
    {id slot : Nat}
    (h : basis.position? id = some slot) :
    basis.slotIds[slot]? = some id := by
  obtain ⟨hlt, hid, _⟩ := List.findIdx?_eq_some_iff_getElem.mp h
  have hget : basis[slot].id = id := by
    simpa using hid
  simp [slotIds, List.getElem?_eq_getElem hlt, hget]

/-- The slots that a slot map finds are the first ones with the ids of the old slots. -/
theorem slotMap_eq_ok_iff
    {source target : Basis}
    {slots : List Nat} :
    source.slotMap target = .ok slots
      ↔
    source.map (fun v => target.position? v.id) = slots.map some := by
  have hslot (v : Variable) (slot : Nat) :
      target.slotOf v = .ok slot ↔ target.position? v.id = some slot := by
    unfold slotOf
    cases target.position? v.id <;> simp
  rw [slotMap, mapM_eq_ok_iff]
  induction source generalizing slots with
  | nil =>
    cases slots <;> simp
  | cons v source ih =>
    cases slots with
    | nil => simp
    | cons slot slots => simp [hslot, ih]

/-- The slot of a variable depends on its id alone. -/
theorem slotOf_congr
    {v w : Variable}
    (h : v.id = w.id)
    (target : Basis) :
    target.slotOf v = target.slotOf w := by
  unfold slotOf
  rw [h]

/-- A slot map looks at the ids of the old basis alone. -/
theorem slotMap_congr
    {a b : Basis}
    (h : a.slotIds = b.slotIds)
    (target : Basis) :
    a.slotMap target = b.slotMap target := by
  unfold slotMap
  induction a generalizing b with
  | nil =>
    cases b with
    | nil => rfl
    | cons w b => simp [slotIds] at h
  | cons v a ih =>
    cases b with
    | nil => simp [slotIds] at h
    | cons w b =>
      obtain ⟨hid, hrest⟩ : v.id = w.id ∧ slotIds a = slotIds b := by
        simpa [slotIds] using h
      rw [List.mapM_cons, List.mapM_cons, slotOf_congr hid, ih hrest]

theorem length_of_slotMap
    {source target : Basis}
    {slots : List Nat}
    (h : source.slotMap target = .ok slots) :
    slots.length = source.length := by
  simpa using (congrArg List.length (slotMap_eq_ok_iff.mp h)).symm

/-- A slot map sends every slot to one with the same id. -/
theorem getElem?_slotIds_of_slotMap
    {source target : Basis}
    {slots : List Nat}
    (h : source.slotMap target = .ok slots) :
    slots.map (fun slot => target.slotIds[slot]?) = source.slotIds.map some := by
  have hpos := slotMap_eq_ok_iff.mp h
  clear h
  induction source generalizing slots with
  | nil =>
    cases slots with
    | nil => rfl
    | cons slot slots => simp at hpos
  | cons v source ih =>
    cases slots with
    | nil => simp at hpos
    | cons slot slots =>
      obtain ⟨hslot, hslots⟩ : target.position? v.id = some slot ∧
          source.map (fun w => target.position? w.id) = slots.map some := by
        simpa using hpos
      have hrest := ih hslots
      have hhead := getElem?_slotIds_of_position? hslot
      simp only [slotIds, List.map_cons] at hrest hhead ⊢
      rw [hhead, hrest]

/-- A slot map stays inside the new basis. -/
theorem lt_of_mem_slotMap
    {source target : Basis}
    {slots : List Nat}
    (h : source.slotMap target = .ok slots)
    {slot : Nat}
    (hslot : slot ∈ slots) :
    slot < target.length := by
  have hmem : target.slotIds[slot]? ∈ slots.map fun s => target.slotIds[s]? :=
    List.mem_map_of_mem hslot
  rw [getElem?_slotIds_of_slotMap h] at hmem
  obtain ⟨id, _, hid⟩ := List.mem_map.mp hmem
  have hlt := (List.getElem?_eq_some_iff.mp hid.symm).1
  simpa [slotIds] using hlt

/-- A slot map into a basis is one into every basis that grew out of it. -/
theorem slotMap_append
    {source target : Basis}
    {slots : List Nat}
    (h : source.slotMap target = .ok slots)
    (new : Basis) :
    source.slotMap (target ++ new) = .ok slots := by
  rw [slotMap_eq_ok_iff] at h ⊢
  rw [← h]
  apply List.map_congr_left
  intro v hv
  have hmem : target.position? v.id ∈ source.map fun w => target.position? w.id :=
    List.mem_map_of_mem hv
  rw [h] at hmem
  obtain ⟨slot, _, hslot⟩ := List.mem_map.mp hmem
  rw [← hslot, position?_append hslot.symm new]

end Positions

section Placing

/-- A placed variable has the slot it was given, in a basis that only grew. -/
theorem place_eq
    (basis : Basis)
    (v : Variable) :
    ∃ new, (basis.place v).1 = basis ++ new ∧
      (basis.place v).1.position? v.id = some (basis.place v).2 := by
  unfold place
  cases hpos : basis.position? v.id with
  | some slot =>
    exact ⟨[], by simp, hpos⟩
  | none =>
    refine ⟨[v], rfl, ?_⟩
    have hnone : List.findIdx? (fun w : Variable => w.id == v.id) basis = none := hpos
    simp [position?, List.findIdx?_append, hnone]

/-- Placed variables have the slots they were given, in a basis that only grew. -/
theorem placeAll_eq
    (basis : Basis)
    (vs : List Variable) :
    ∃ new, (basis.placeAll vs).1 = basis ++ new ∧
      slotMap vs (basis.placeAll vs).1 = .ok (basis.placeAll vs).2 := by
  induction vs generalizing basis with
  | nil =>
    exact ⟨[], by simp [placeAll], rfl⟩
  | cons v vs ih =>
    obtain ⟨first, hfirst, hslot⟩ := place_eq basis v
    obtain ⟨others, hothers, hslots⟩ := ih (basis.place v).1
    refine ⟨first ++ others, ?_, ?_⟩
    · rw [placeAll, hothers, hfirst, List.append_assoc]
    · rw [slotMap_eq_ok_iff] at hslots ⊢
      have hhead := position?_append hslot others
      rw [← hothers] at hhead
      simp [placeAll, hslots, hhead]

theorem slotMap_fold
    (basis : Basis) :
    basis.slotMap basis.fold.1 = .ok basis.fold.2 := by
  obtain ⟨_, _, hslots⟩ := placeAll_eq [] basis
  exact hslots

theorem slotMap_union_left
    (a b : Basis) :
    a.slotMap (a.union b).basis = .ok (a.union b).leftSlots := by
  obtain ⟨_, _, hleft⟩ := placeAll_eq [] a
  obtain ⟨new, hgrown, _⟩ := placeAll_eq (placeAll [] a).1 b
  have hbasis : (a.union b).basis = (placeAll [] a).1 ++ new := hgrown
  rw [hbasis]
  exact slotMap_append hleft new

theorem slotMap_union_right
    (a b : Basis) :
    b.slotMap (a.union b).basis = .ok (a.union b).rightSlots := by
  obtain ⟨_, _, hright⟩ := placeAll_eq (placeAll [] a).1 b
  exact hright

end Placing

end Basis

end MathProgram

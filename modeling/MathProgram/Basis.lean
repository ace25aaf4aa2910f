import MathProgram.Variable

/-!
# Bases of an expression

A basis lists the variables of an expression slot by slot.  The same id may
occur in several slots, with the same handle or with another one.

**Reading.**  `ids` lists the distinct ids in order of first occurrence, `unique`
keeps the first handle of every id, and `position?` finds the first slot of an
id.

**Union.**  `union a b` lists the variables of `a` and then those that only `b`
has, one slot per id, and says for every slot of `a` and of `b` where it went.
It is assembled in one pass over both bases.  `slotMap` finds the same places
afterwards, by looking every variable up in a finished basis.
-/

namespace MathProgram

/-- The variables of an expression, slot by slot. -/
abbrev Basis := List Variable

namespace Basis

/-- The id of every slot, repeats included. -/
def slotIds
    (basis : Basis) :
    List Nat :=
  basis.map Variable.id

/-- The distinct ids, in order of first occurrence. -/
def ids
    (basis : Basis) :
    List Nat :=
  basis.slotIds.eraseDups

/-- One slot per id, holding the first handle of that id. -/
def unique : Basis → Basis
  | [] => []
  | v :: rest => v :: (unique rest).filter (fun w => w.id != v.id)

/-- The first slot that holds an id. -/
def position?
    (basis : Basis)
    (id : Nat) :
    Option Nat :=
  basis.findIdx? (fun v => v.id == id)

/-- Whether some slot holds an id. -/
def contains
    (basis : Basis)
    (id : Nat) :
    Bool :=
  basis.any (fun v => v.id == id)

/-- Find the slot of a variable, opening a new slot at the end when its id is new. -/
def place
    (basis : Basis)
    (v : Variable) :
    Basis × Nat :=
  match basis.position? v.id with
  | some slot => (basis, slot)
  | none => (basis ++ [v], basis.length)

/-- Place variables one after another, collecting the slot of each. -/
def placeAll
    (basis : Basis) :
    List Variable → Basis × List Nat
  | [] => (basis, [])
  | v :: rest =>
    let placed := place basis v
    let others := placeAll placed.1 rest
    (others.1, placed.2 :: others.2)

/-- A basis that two others were merged into, with the new slot of each of their slots. -/
structure Union where
  basis : Basis
  leftSlots : List Nat
  rightSlots : List Nat

/-- Merge two bases: the variables of the left one, then those only the right one has. -/
def union
    (a b : Basis) :
    Union :=
  let left := placeAll [] a
  let right := placeAll left.1 b
  { basis := right.1, leftSlots := left.2, rightSlots := right.2 }

/-- A basis without its repeated slots, with the new slot of each old slot. -/
def fold
    (basis : Basis) :
    Basis × List Nat :=
  placeAll [] basis

end Basis

end MathProgram

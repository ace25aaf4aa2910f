import MathProgram.DenseMatrix

/-!
# Moving coefficients to new slots

A slot list sends slot `i` of an old basis to slot `slots[i]` of a new one.
Several old slots may go to the same place; their coefficients are then added.

**Rule.**  The new coefficient at a slot is the sum of the old coefficients that
were sent there, added one after another to zero in the order of the old slots.
A square matrix is moved along both axes, and its entries are added row by row.

The order of the additions is part of the rule, so that the result is
determined for coefficient types whose addition is not associative.
-/

namespace MathProgram

section Remap

variable {α : Type}

/-- The entries at the slots that are sent to `target`, in slot order. -/
def entriesAt
    {β : Type}
    (slots : List Nat)
    (entries : List β)
    (target : Nat) :
    List β :=
  ((slots.zip entries).filter (fun p => p.1 == target)).map Prod.snd

/-- Add numbers to zero one after another. -/
def runningSum
    [Zero α]
    [Add α]
    (xs : List α) :
    α :=
  xs.foldl (· + ·) 0

/-- Move one coefficient per slot to the new slots. -/
def remapVector
    [Zero α]
    [Add α]
    (slots : List Nat)
    (width : Nat)
    (coeffs : List α) :
    List α :=
  (List.range width).map fun target => runningSum (entriesAt slots coeffs target)

@[simp] theorem length_remapVector
    [Zero α]
    [Add α]
    (slots : List Nat)
    (width : Nat)
    (coeffs : List α) :
    (remapVector slots width coeffs).length = width := by
  simp [remapVector]

/-- Move the columns of a matrix to the new slots. -/
def remapColumns
    [Zero α]
    [Add α]
    (slots : List Nat)
    (width : Nat)
    (m : DenseMatrix α) :
    DenseMatrix α where
  cols := width
  rows := m.rows.map (remapVector slots width)
  width := by
    intro row hrow
    obtain ⟨old, _, rfl⟩ := List.mem_map.mp hrow
    exact length_remapVector slots width old

/-- Move the rows and the columns of a square matrix to the new slots. -/
def remapSquare
    [Zero α]
    [Add α]
    (slots : List Nat)
    (width : Nat)
    (m : DenseMatrix α) :
    DenseMatrix α :=
  .ofFn width width fun row column =>
    runningSum ((entriesAt slots m.rows row).flatMap fun old => entriesAt slots old column)

@[simp] theorem cols_remapColumns
    [Zero α]
    [Add α]
    (slots : List Nat)
    (width : Nat)
    (m : DenseMatrix α) :
    (remapColumns slots width m).cols = width := by
  rfl

@[simp] theorem length_rows_remapColumns
    [Zero α]
    [Add α]
    (slots : List Nat)
    (width : Nat)
    (m : DenseMatrix α) :
    (remapColumns slots width m).rows.length = m.rows.length := by
  simp [remapColumns]

@[simp] theorem cols_remapSquare
    [Zero α]
    [Add α]
    (slots : List Nat)
    (width : Nat)
    (m : DenseMatrix α) :
    (remapSquare slots width m).cols = width := by
  rfl

@[simp] theorem length_rows_remapSquare
    [Zero α]
    [Add α]
    (slots : List Nat)
    (width : Nat)
    (m : DenseMatrix α) :
    (remapSquare slots width m).rows.length = width := by
  simp [remapSquare]

end Remap

end MathProgram

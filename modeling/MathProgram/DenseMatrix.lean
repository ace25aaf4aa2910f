/-!
# Dense matrices

A matrix is a list of rows together with its number of columns, so that a
matrix without rows still has a width.  Every row has that width.

Two matrices are equal when their shapes and all their entries are.
-/

namespace MathProgram

/-- A matrix given row by row. -/
structure DenseMatrix (α : Type) where
  cols : Nat
  rows : List (List α)
  width : ∀ row ∈ rows, row.length = cols

namespace DenseMatrix

section DenseMatrix

variable {α : Type}

theorem ext_rows
    {a b : DenseMatrix α}
    (hcols : a.cols = b.cols)
    (hrows : a.rows = b.rows) :
    a = b := by
  cases a
  cases b
  cases hcols
  cases hrows
  rfl

/-- The matrix of a given shape with the given entries. -/
def ofFn
    (height cols : Nat)
    (entry : Nat → Nat → α) :
    DenseMatrix α where
  cols := cols
  rows := (List.range height).map fun i => (List.range cols).map (entry i)
  width := by
    intro row hrow
    obtain ⟨i, _, rfl⟩ := List.mem_map.mp hrow
    simp

/-- The entry at a row and a column, zero outside of the matrix. -/
def entry
    [Zero α]
    (m : DenseMatrix α)
    (i j : Nat) :
    α :=
  ((m.rows[i]?).bind (fun row => row[j]?)).getD 0

/-- The matrix of a given shape that is zero everywhere. -/
def zeros
    [Zero α]
    (height cols : Nat) :
    DenseMatrix α :=
  ofFn height cols fun _ _ => 0

/-- The square matrix with ones on its diagonal. -/
def identity
    [Zero α]
    [One α]
    (n : Nat) :
    DenseMatrix α :=
  ofFn n n fun i j => if i = j then 1 else 0

/-- Apply a function to every entry. -/
def map
    {β : Type}
    (f : α → β)
    (m : DenseMatrix α) :
    DenseMatrix β where
  cols := m.cols
  rows := m.rows.map (List.map f)
  width := by
    intro row hrow
    obtain ⟨old, hold, rfl⟩ := List.mem_map.mp hrow
    simpa using m.width old hold

/-- Multiply every entry by a factor from the right. -/
def scale
    [Mul α]
    (m : DenseMatrix α)
    (factor : α) :
    DenseMatrix α :=
  m.map (· * factor)

/-- Add two matrices of one width entry by entry, over the rows both have. -/
def add
    [Add α]
    (a b : DenseMatrix α)
    (sameCols : a.cols = b.cols) :
    DenseMatrix α where
  cols := a.cols
  rows := List.zipWith (List.zipWith (· + ·)) a.rows b.rows
  width := by
    intro row hrow
    obtain ⟨i, hi, rfl⟩ := List.mem_iff_getElem.mp hrow
    simp only [List.length_zipWith] at hi
    have hleft := a.width a.rows[i] (List.getElem_mem (by omega))
    have hright := b.width b.rows[i] (List.getElem_mem (by omega))
    simp [hleft, hright, sameCols]

@[simp] theorem length_rows_ofFn
    (height cols : Nat)
    (entry : Nat → Nat → α) :
    (ofFn height cols entry).rows.length = height := by
  simp [ofFn]

theorem rows_zeros
    [Zero α]
    (height cols : Nat) :
    (zeros height cols : DenseMatrix α).rows = List.replicate height (List.replicate cols 0) := by
  simp [zeros, ofFn, List.map_const']

@[simp] theorem length_rows_scale
    [Mul α]
    (m : DenseMatrix α)
    (factor : α) :
    (m.scale factor).rows.length = m.rows.length := by
  simp [scale, map]

@[simp] theorem length_rows_add
    [Add α]
    (a b : DenseMatrix α)
    (sameCols : a.cols = b.cols) :
    (a.add b sameCols).rows.length = min a.rows.length b.rows.length := by
  simp [add]

/-- Shapes and entries decide equality. -/
instance
    [BEq α] :
    BEq (DenseMatrix α) :=
  ⟨fun a b => a.cols == b.cols && a.rows == b.rows⟩

end DenseMatrix

end DenseMatrix

end MathProgram

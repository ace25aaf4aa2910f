import MathProgram.DenseMatrix
import MathProgram.ExprError
import MathProgram.Expression.Summation

/-!
# Checked access to vectors and matrices

A computation that checks its accesses stops when it reads or writes outside of
a vector or a matrix, when it adds two of different shapes, and when an
assertion fails.  Being stopped is different from being refused: a refusal is an
answer to the caller.

**Reading.**  Each access has one lemma that says when it goes through, and what
it gives then.
-/

namespace MathProgram

/-- What stops a computation. -/
inductive Panic where
  | outOfRange
  | differentShapes
  | assertion
  | dot (lengths : ScalarExpr.LengthMismatch)
  deriving DecidableEq, Repr

/-- Why a checked computation gave no result. -/
inductive Fault where
  | panic (cause : Panic)
  | refused (cause : ExprError)
  deriving DecidableEq, Repr

/-- A computation that checks its accesses. -/
abbrev Checked (β : Type) :=
  Except Fault β

namespace Checked

section Access

variable {α β : Type}

/-- The entry of a vector at an index. -/
def index
    (v : List β)
    (i : Nat) :
    Checked β :=
  match v[i]? with
  | some entry => .ok entry
  | none => .error (.panic .outOfRange)

/-- Add to the entry of a vector at an index. -/
def addAt
    [Add α]
    (v : List α)
    (i : Nat)
    (x : α) :
    Checked (List α) :=
  if i < v.length then
    .ok (v.modify i (· + x))
  else
    .error (.panic .outOfRange)

/-- Add two vectors of one length. -/
def addVectors
    [Add α]
    (a b : List α) :
    Checked (List α) :=
  if a.length = b.length then
    .ok (List.zipWith (· + ·) a b)
  else
    .error (.panic .differentShapes)

/-- One row of a matrix. -/
def row
    (m : DenseMatrix α)
    (i : Nat) :
    Checked (List α) :=
  index m.rows i

/-- The entry of a matrix at a row and a column. -/
def entry
    (m : DenseMatrix α)
    (i j : Nat) :
    Checked α := do
  index (← row m i) j

/-- Change one row of a matrix without changing its length. -/
def modifyRow
    (m : DenseMatrix α)
    (i : Nat)
    (f : List α → List α)
    (hf : ∀ row, (f row).length = row.length) :
    DenseMatrix α where
  cols := m.cols
  rows := m.rows.modify i f
  width := by
    intro row hrow
    obtain ⟨k, hk, rfl⟩ := List.mem_iff_getElem.mp hrow
    rw [List.length_modify] at hk
    rw [List.getElem_modify]
    split
    · rw [hf, m.width _ (List.getElem_mem hk)]
    · exact m.width _ (List.getElem_mem hk)

/-- Add to the entry of a matrix at a row and a column. -/
def addEntry
    [Add α]
    (m : DenseMatrix α)
    (i j : Nat)
    (x : α) :
    Checked (DenseMatrix α) :=
  if i < m.rows.length ∧ j < m.cols then
    .ok (modifyRow m i (fun row => row.modify j (· + x)) fun _ => List.length_modify ..)
  else
    .error (.panic .outOfRange)

/-- Add two matrices of one shape. -/
def addMatrices
    [Add α]
    (a b : DenseMatrix α) :
    Checked (DenseMatrix α) :=
  if h : a.rows.length = b.rows.length ∧ a.cols = b.cols then
    .ok (a.add b h.2)
  else
    .error (.panic .differentShapes)

/-- Go on if a condition holds. -/
def require
    (condition : Bool) :
    Checked Unit :=
  if condition then .ok () else .error (.panic .assertion)

/-- The outcome of a computation that can only be refused. -/
def ofResult
    (outcome : Except ExprError β) :
    Checked β :=
  outcome.mapError .refused

theorem ofResult_ok
    (b : β) :
    ofResult (.ok b) = .ok b := by
  rfl

theorem ofResult_error
    (cause : ExprError) :
    ofResult (.error cause : Except ExprError β) = .error (.refused cause) := by
  rfl

/-- A computation that went through hands its result on. -/
theorem ok_bind
    {γ : Type}
    (b : β)
    (next : β → Checked γ) :
    ((.ok b : Checked β) >>= next) = next b := by
  rfl

theorem index_of_lt
    {v : List β}
    {i : Nat}
    (h : i < v.length) :
    index v i = .ok v[i] := by
  simp [index, h]

theorem addAt_of_lt
    [Add α]
    {v : List α}
    {i : Nat}
    (h : i < v.length)
    (x : α) :
    addAt v i x = .ok (v.modify i (· + x)) :=
  if_pos h

theorem addVectors_of_length_eq
    [Add α]
    {a b : List α}
    (h : a.length = b.length) :
    addVectors a b = .ok (List.zipWith (· + ·) a b) :=
  if_pos h

theorem row_of_lt
    {m : DenseMatrix α}
    {i : Nat}
    (h : i < m.rows.length) :
    row m i = .ok m.rows[i] :=
  index_of_lt h

theorem entry_of_lt
    [Zero α]
    {m : DenseMatrix α}
    {i j : Nat}
    (hi : i < m.rows.length)
    (hj : j < m.cols) :
    entry m i j = .ok (m.entry i j) := by
  have hwidth : j < m.rows[i].length := by
    rw [m.width _ (List.getElem_mem hi)]
    exact hj
  unfold entry
  rw [row_of_lt hi]
  simp [DenseMatrix.entry, hi, hwidth, index, bind, Except.bind]

theorem addEntry_of_lt
    [Add α]
    {m : DenseMatrix α}
    {i j : Nat}
    (hi : i < m.rows.length)
    (hj : j < m.cols)
    (x : α) :
    addEntry m i j x
      =
    .ok (modifyRow m i (fun row => row.modify j (· + x)) fun _ => List.length_modify ..) :=
  if_pos ⟨hi, hj⟩

theorem addMatrices_of_shape_eq
    [Add α]
    {a b : DenseMatrix α}
    (hrows : a.rows.length = b.rows.length)
    (hcols : a.cols = b.cols) :
    addMatrices a b = .ok (a.add b hcols) :=
  dif_pos ⟨hrows, hcols⟩

end Access

end Checked

end MathProgram

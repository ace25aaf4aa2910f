import MathProgram.Proofs.Checked.Access
import MathProgram.Proofs.Scatter

/-!
# Moving coefficients by checked loops

The loops that move coefficients run over a slot list.  Step `i` reads what
belongs to old slot `i` and adds it to the new slot that the list names, one
checked access after another.

**Range.**  The accesses of a loop stay in range when the list has no more
slots than there are entries and names new slots only.  The loop then goes
through and leaves the moved coefficients.

**Results.**
* `moveVector_eq_ok`, `moveSquare_eq_ok`, `moveColumns_eq_ok`: within range
  the checked loops compute the moved coefficients.
-/

namespace MathProgram

namespace Checked

section Loops

variable {σ : Type}

/-- Run a body for every slot of a list, together with the number of the slot. -/
def forSlots
    (body : Nat → Nat → σ → Checked σ) :
    Nat → List Nat → σ → Checked σ
  | _, [], s => .ok s
  | i, slot :: slots, s => do forSlots body (i + 1) slots (← body i slot s)

/-- A loop goes on from the state that its first step leaves. -/
theorem forSlots_cons
    {body : Nat → Nat → σ → Checked σ}
    {i slot : Nat}
    {s next : σ}
    (h : body i slot s = .ok next)
    (slots : List Nat) :
    forSlots body i (slot :: slots) s = forSlots body (i + 1) slots next := by
  rw [forSlots, h]
  rfl

end Loops

section Vector

variable {α : Type} [Zero α] [Add α]

/-- Add the coefficient of slot `i` to the new slot `slots[i]`, for every `i`. -/
def moveVector
    (slots : List Nat)
    (width : Nat)
    (coeffs : List α) :
    Checked (List α) :=
  forSlots (fun i slot out => do addAt out slot (← index coeffs i)) 0 slots
    (List.replicate width 0)

omit [Zero α] in
theorem forSlots_addAt
    (coeffs : List α)
    {slots : List Nat}
    {i : Nat}
    {out : List α}
    (hread : i + slots.length ≤ coeffs.length)
    (hwrite : ∀ slot ∈ slots, slot < out.length) :
    forSlots (fun i slot out => do addAt out slot (← index coeffs i)) i slots out
      =
    .ok (scatter (· + ·) slots (coeffs.drop i) out) := by
  induction slots generalizing i out with
  | nil =>
    rfl
  | cons slot slots ih =>
    obtain ⟨hslot, hslots⟩ := List.forall_mem_cons.mp hwrite
    rw [List.length_cons] at hread
    have hi : i < coeffs.length := by
      omega
    have hstep :
        (do addAt out slot (← index coeffs i) : Checked (List α))
          =
        .ok (out.modify slot (· + coeffs[i])) := by
      rw [index_of_lt hi]
      exact addAt_of_lt hslot coeffs[i]
    rw [forSlots_cons hstep, ih (by omega), List.drop_eq_getElem_cons hi, scatter]
    intro next hnext
    rw [List.length_modify]
    exact hslots next hnext

/-- Within range the loop over a vector leaves the moved coefficients. -/
theorem moveVector_eq_ok
    {slots : List Nat}
    {width : Nat}
    {coeffs : List α}
    (hread : slots.length ≤ coeffs.length)
    (hwrite : ∀ slot ∈ slots, slot < width) :
    moveVector slots width coeffs = .ok (remapVector slots width coeffs) := by
  rw [moveVector, forSlots_addAt coeffs (by omega), remapVector_eq_scatter]
  · rfl
  · simpa using hwrite

end Vector

section Square

variable {α : Type} [Zero α] [Add α]

/-- Add the entry at slots `i` and `j` to the new slots `slots[i]` and `slots[j]`. -/
def moveSquare
    (slots : List Nat)
    (width : Nat)
    (m : DenseMatrix α) :
    Checked (DenseMatrix α) :=
  forSlots
    (fun i row out =>
      forSlots (fun j column out => do addEntry out row column (← entry m i j)) 0 slots out)
    0 slots (.zeros width width)

/-- Scatter entries into one row of a matrix. -/
def scatterRow
    (out : DenseMatrix α)
    (row : Nat)
    (slots : List Nat)
    (entries : List α) :
    DenseMatrix α :=
  modifyRow out row (scatter (· + ·) slots entries) (length_scatter (· + ·) slots entries)

omit [Zero α] in
@[simp] theorem length_rows_scatterRow
    (out : DenseMatrix α)
    (row : Nat)
    (slots : List Nat)
    (entries : List α) :
    (scatterRow out row slots entries).rows.length = out.rows.length := by
  simp [scatterRow, modifyRow]

/-- The inner loop scatters one row into one row. -/
theorem forSlots_addEntry
    {m : DenseMatrix α}
    {i row : Nat}
    (hi : i < m.rows.length)
    {slots : List Nat}
    (j : Nat)
    (out : DenseMatrix α)
    (hread : j + slots.length ≤ m.cols)
    (hrow : row < out.rows.length)
    (hwrite : ∀ slot ∈ slots, slot < out.cols) :
    forSlots (fun j column out => do addEntry out row column (← entry m i j)) j slots out
      =
    .ok (scatterRow out row slots (m.rows[i].drop j)) := by
  have hwidth : m.rows[i].length = m.cols := m.width _ (List.getElem_mem hi)
  induction slots generalizing j out with
  | nil =>
    have hsame : scatterRow out row [] (m.rows[i].drop j) = out :=
      DenseMatrix.ext_rows rfl (List.modify_id row out.rows)
    rw [hsame]
    rfl
  | cons slot slots ih =>
    obtain ⟨hslot, hslots⟩ := List.forall_mem_cons.mp hwrite
    rw [List.length_cons] at hread
    have hj : j < m.rows[i].length := by
      omega
    have hentry : m.entry i j = m.rows[i][j] := by
      simp [DenseMatrix.entry, hi, hj]
    have hstep :
        (do addEntry out row slot (← entry m i j) : Checked (DenseMatrix α))
          =
        .ok (scatterRow out row [slot] [m.rows[i][j]]) := by
      rw [entry_of_lt hi (by omega), hentry]
      exact addEntry_of_lt hrow hslot _
    have hkept : row < (scatterRow out row [slot] [m.rows[i][j]]).rows.length := by
      rw [length_rows_scatterRow]
      exact hrow
    rw [forSlots_cons hstep, ih (j + 1) _ (by omega) hkept hslots, List.drop_eq_getElem_cons hj]
    apply congrArg Except.ok
    apply DenseMatrix.ext_rows
    · rfl
    · simp only [scatterRow, modifyRow, List.modify_modify_eq]
      rfl

/-- The outer loop scatters rows into rows. -/
theorem forSlots_rows
    (m : DenseMatrix α)
    {slots columns : List Nat}
    (i : Nat)
    (out : DenseMatrix α)
    (hread : i + slots.length ≤ m.rows.length)
    (hwrite : ∀ slot ∈ slots, slot < out.rows.length)
    (hcolumns : columns.length ≤ m.cols)
    (hcolumn : ∀ slot ∈ columns, slot < out.cols) :
    ∃ moved,
      forSlots
        (fun i row out =>
          forSlots (fun j column out => do addEntry out row column (← entry m i j)) 0 columns out)
        i slots out = .ok moved ∧
      moved.cols = out.cols ∧
      moved.rows
        =
      scatter (fun held row => scatter (· + ·) columns row held) slots (m.rows.drop i)
        out.rows := by
  induction slots generalizing i out with
  | nil =>
    exact ⟨out, rfl, rfl, rfl⟩
  | cons slot slots ih =>
    obtain ⟨hslot, hslots⟩ := List.forall_mem_cons.mp hwrite
    rw [List.length_cons] at hread
    have hi : i < m.rows.length := by
      omega
    have hstep := forSlots_addEntry hi 0 out (by omega) hslot hcolumn
    have hkept : ∀ next ∈ slots,
        next < (scatterRow out slot columns (m.rows[i].drop 0)).rows.length := by
      simpa using hslots
    obtain ⟨moved, hmoved, hcols, hrows⟩ := ih (i + 1) _ (by omega) hkept hcolumn
    refine ⟨moved, (forSlots_cons hstep slots).trans hmoved, hcols, ?_⟩
    rw [hrows, List.drop_eq_getElem_cons hi]
    rfl

/-- Within range the loop over a square matrix leaves the moved entries. -/
theorem moveSquare_eq_ok
    {slots : List Nat}
    {width : Nat}
    {m : DenseMatrix α}
    (hrows : slots.length ≤ m.rows.length)
    (hcols : slots.length ≤ m.cols)
    (hwrite : ∀ slot ∈ slots, slot < width) :
    moveSquare slots width m = .ok (remapSquare slots width m) := by
  have hread : 0 + slots.length ≤ m.rows.length := by
    omega
  have htarget : ∀ slot ∈ slots,
      slot < (DenseMatrix.zeros width width : DenseMatrix α).rows.length := by
    simpa [DenseMatrix.zeros] using hwrite
  obtain ⟨moved, hmoved, hwidth, hscattered⟩ :=
    forSlots_rows m 0 (.zeros width width) hread htarget hcols hwrite
  rw [moveSquare, hmoved]
  apply congrArg Except.ok
  apply DenseMatrix.ext_rows
  · exact hwidth
  · have hzeros : (DenseMatrix.zeros width width : DenseMatrix α).rows
        = List.replicate width (List.replicate width 0) := by
      simp [DenseMatrix.zeros, DenseMatrix.ofFn, List.map_const']
    rw [hscattered, hzeros, rows_remapSquare_eq_scatter]
    rfl

end Square

section Columns

variable {α : Type} [Zero α] [Add α]

/-- Add column `i` to the new column `slots[i]`, row by row, for every `i`. -/
def moveColumns
    (slots : List Nat)
    (width : Nat)
    (m : DenseMatrix α) :
    Checked (DenseMatrix α) :=
  forSlots
    (fun i column out =>
      (List.range m.rows.length).foldlM
        (fun out row => do addEntry out row column (← entry m row i)) out)
    0 slots (.zeros m.rows.length width)

/-- The inner loop adds one column to another, as far as it has come. -/
theorem foldlM_addEntry
    {m out : DenseMatrix α}
    {i column n : Nat}
    (hn : n ≤ m.rows.length)
    (hrows : out.rows.length = m.rows.length)
    (hi : i < m.cols)
    (hcolumn : column < out.cols) :
    ∃ next,
      (List.range n).foldlM (fun out row => do addEntry out row column (← entry m row i)) out
        = (.ok next : Checked _) ∧
      next.cols = out.cols ∧
      next.rows.length = out.rows.length ∧
      ∀ r, next.rows[r]?
        =
      if r < n then
        out.rows[r]?.map fun held => held.modify column (· + m.entry r i)
      else
        out.rows[r]? := by
  induction n with
  | zero =>
    exact ⟨out, rfl, rfl, rfl, by simp⟩
  | succ n ih =>
    obtain ⟨next, hnext, hcols, hlength, hget⟩ := ih (by omega)
    have hstep :
        (do addEntry next n column (← entry m n i) : Checked (DenseMatrix α))
          =
        .ok (modifyRow next n (fun held => held.modify column (· + m.entry n i))
          fun _ => List.length_modify ..) := by
      rw [entry_of_lt (by omega) hi]
      exact addEntry_of_lt (by omega) (by omega) _
    refine ⟨modifyRow next n (fun held => held.modify column (· + m.entry n i))
      fun _ => List.length_modify .., ?_, hcols, ?_, ?_⟩
    · rw [List.range_succ, List.foldlM_append, hnext]
      simp only [List.foldlM_cons, List.foldlM_nil, bind_pure]
      exact hstep
    · simpa [modifyRow] using hlength
    · intro r
      simp only [modifyRow, List.getElem?_modify, hget]
      by_cases hr : n = r
      · subst hr
        simp
      · by_cases hlt : r < n
        · simp [hr, hlt, Nat.lt_succ_of_lt hlt]
        · have hge : ¬ r < n + 1 := by
            omega
          simp [hr, hlt, hge]

/-- The outer loop scatters every row over the new columns. -/
theorem forSlots_columns
    (m : DenseMatrix α)
    {slots : List Nat}
    (i : Nat)
    (out : DenseMatrix α)
    (hread : i + slots.length ≤ m.cols)
    (hrows : out.rows.length = m.rows.length)
    (hwrite : ∀ slot ∈ slots, slot < out.cols) :
    ∃ moved,
      forSlots
        (fun i column out =>
          (List.range m.rows.length).foldlM
            (fun out row => do addEntry out row column (← entry m row i)) out)
        i slots out = .ok moved ∧
      moved.cols = out.cols ∧
      ∀ r, moved.rows[r]?
        =
      out.rows[r]?.map fun held =>
        scatter (· + ·) slots ((m.rows.getD r []).drop i) held := by
  induction slots generalizing i out with
  | nil =>
    exact ⟨out, rfl, rfl, by simp⟩
  | cons slot slots ih =>
    obtain ⟨hslot, hslots⟩ := List.forall_mem_cons.mp hwrite
    rw [List.length_cons] at hread
    obtain ⟨next, hnext, hcols, hlength, hget⟩ :=
      foldlM_addEntry (m := m) (i := i) (Nat.le_refl m.rows.length) hrows (by omega) hslot
    have hkept : ∀ target ∈ slots, target < next.cols := by
      rw [hcols]
      exact hslots
    obtain ⟨moved, hmoved, hwidth, hscattered⟩ :=
      ih (i + 1) next (by omega) (hlength.trans hrows) hkept
    refine ⟨moved, (forSlots_cons hnext slots).trans hmoved, hwidth.trans hcols, ?_⟩
    intro r
    rw [hscattered, hget]
    by_cases hr : r < m.rows.length
    · have hi : i < m.rows[r].length := by
        rw [m.width _ (List.getElem_mem hr)]
        omega
      have hentry : m.entry r i = m.rows[r][i] := by
        simp [DenseMatrix.entry, hr, hi]
      rw [if_pos hr, Option.map_map, hentry, List.getD_eq_getElem?_getD,
        List.getElem?_eq_getElem hr, Option.getD_some, List.drop_eq_getElem_cons hi]
      rfl
    · rw [if_neg hr, List.getElem?_eq_none (by omega)]
      rfl

/-- Within range the loop over the columns leaves the moved columns. -/
theorem moveColumns_eq_ok
    {slots : List Nat}
    {width : Nat}
    {m : DenseMatrix α}
    (hcols : slots.length ≤ m.cols)
    (hwrite : ∀ slot ∈ slots, slot < width) :
    moveColumns slots width m = .ok (remapColumns slots width m) := by
  have hread : 0 + slots.length ≤ m.cols := by
    omega
  have hrows : (DenseMatrix.zeros m.rows.length width : DenseMatrix α).rows.length
      = m.rows.length := by
    simp [DenseMatrix.zeros]
  obtain ⟨moved, hmoved, hwidth, hscattered⟩ :=
    forSlots_columns m 0 (.zeros m.rows.length width) hread hrows hwrite
  rw [moveColumns, hmoved]
  apply congrArg Except.ok
  apply DenseMatrix.ext_rows
  · exact hwidth
  · rw [rows_remapColumns_eq_scatter]
    apply List.ext_getElem?
    intro r
    rw [hscattered, List.getElem?_map]
    by_cases hr : r < m.rows.length
    · simp [hr, DenseMatrix.zeros, DenseMatrix.ofFn, List.map_const']
    · simp [hr, DenseMatrix.zeros, DenseMatrix.ofFn]

end Columns

end Checked

end MathProgram

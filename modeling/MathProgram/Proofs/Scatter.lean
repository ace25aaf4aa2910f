import MathProgram.Remap

/-!
# Scattering entries

`scatter` walks over the slots of an old basis once and combines each entry
with what its new slot holds so far.  Moving coefficients can be done in this
way: a vector in one pass, a square matrix in one pass over its rows that
scatters every row, and the columns of a matrix row by row.

**Results.**
* `getElem?_scatter`: a slot holds its entries combined in the order of the old
  slots.
* `remapVector_eq_scatter`, `rows_remapSquare_eq_scatter`,
  `rows_remapColumns_eq_scatter`: moved coefficients are scattered ones.
-/

namespace MathProgram

section Entries

variable {β : Type}

@[simp] theorem entriesAt_nil
    (entries : List β)
    (target : Nat) :
    entriesAt [] entries target = [] := by
  rfl

@[simp] theorem entriesAt_nil_right
    (slots : List Nat)
    (target : Nat) :
    entriesAt slots ([] : List β) target = [] := by
  simp [entriesAt]

theorem entriesAt_cons
    (slot : Nat)
    (slots : List Nat)
    (entry : β)
    (entries : List β)
    (target : Nat) :
    entriesAt (slot :: slots) (entry :: entries) target
      =
    if slot = target then
      entry :: entriesAt slots entries target
    else
      entriesAt slots entries target := by
  by_cases h : slot = target <;> simp [entriesAt, h]

end Entries

section Scatter

variable {σ β : Type}

/-- Combine every entry with what its slot holds, one entry after another. -/
def scatter
    (combine : σ → β → σ) :
    List Nat → List β → List σ → List σ
  | slot :: slots, entry :: entries, out =>
    scatter combine slots entries (out.modify slot fun held => combine held entry)
  | _, _, out => out

@[simp] theorem scatter_nil
    (combine : σ → β → σ)
    (entries : List β)
    (out : List σ) :
    scatter combine [] entries out = out := by
  rfl

@[simp] theorem scatter_nil_right
    (combine : σ → β → σ)
    (slots : List Nat)
    (out : List σ) :
    scatter combine slots [] out = out := by
  cases slots <;> rfl

@[simp] theorem length_scatter
    (combine : σ → β → σ)
    (slots : List Nat)
    (entries : List β)
    (out : List σ) :
    (scatter combine slots entries out).length = out.length := by
  induction slots generalizing entries out with
  | nil =>
    rfl
  | cons slot slots ih =>
    cases entries with
    | nil => rfl
    | cons entry entries => rw [scatter, ih, List.length_modify]

/-- After scattering, a slot holds its entries combined in order. -/
theorem getElem?_scatter
    (combine : σ → β → σ)
    (slots : List Nat)
    (entries : List β)
    (out : List σ)
    (target : Nat) :
    (scatter combine slots entries out)[target]?
      =
    out[target]?.map fun held => (entriesAt slots entries target).foldl combine held := by
  induction slots generalizing entries out with
  | nil =>
    simp
  | cons slot slots ih =>
    cases entries with
    | nil => simp
    | cons entry entries =>
      rw [scatter, ih, List.getElem?_modify, entriesAt_cons]
      by_cases h : slot = target
      · rw [if_pos h]
        cases out[target]? <;> simp [h]
      · rw [if_neg h]
        cases out[target]? <;> simp [h]

end Scatter

section Remap

variable {α : Type} [Zero α] [Add α]

theorem remapVector_eq_scatter
    (slots : List Nat)
    (width : Nat)
    (coeffs : List α) :
    remapVector slots width coeffs
      =
    scatter (· + ·) slots coeffs (List.replicate width 0) := by
  apply List.ext_getElem?
  intro target
  rw [getElem?_scatter, remapVector, List.getElem?_map]
  by_cases h : target < width
  · simp [h, runningSum]
  · simp [h]

omit [Zero α] in
/-- Rows that are scattered into one another add up entry by entry, row after row. -/
theorem getElem?_foldl_scatter
    (slots : List Nat)
    (rows : List (List α))
    (init : List α)
    (column : Nat) :
    (rows.foldl (fun held row => scatter (· + ·) slots row held) init)[column]?
      =
    init[column]?.map fun held =>
      (rows.flatMap fun row => entriesAt slots row column).foldl (· + ·) held := by
  induction rows generalizing init with
  | nil =>
    simp
  | cons row rows ih =>
    rw [List.foldl_cons, ih, getElem?_scatter, List.flatMap_cons]
    cases init[column]? <;> simp [List.foldl_append]

theorem rows_remapSquare_eq_scatter
    (slots : List Nat)
    (width : Nat)
    (m : DenseMatrix α) :
    (remapSquare slots width m).rows
      =
    scatter (fun held row => scatter (· + ·) slots row held) slots m.rows
      (List.replicate width (List.replicate width 0)) := by
  apply List.ext_getElem?
  intro target
  rw [getElem?_scatter, remapSquare, DenseMatrix.ofFn, List.getElem?_map]
  by_cases h : target < width
  · have hrow :
        (List.range width).map
            (fun column =>
              runningSum ((entriesAt slots m.rows target).flatMap fun old =>
                entriesAt slots old column))
          =
        (entriesAt slots m.rows target).foldl
          (fun held row => scatter (· + ·) slots row held) (List.replicate width 0) := by
      apply List.ext_getElem?
      intro column
      rw [getElem?_foldl_scatter, List.getElem?_map]
      by_cases hcolumn : column < width
      · simp [hcolumn, runningSum]
      · simp [hcolumn]
    simp [h, hrow]
  · simp [h]

theorem rows_remapColumns_eq_scatter
    (slots : List Nat)
    (width : Nat)
    (m : DenseMatrix α) :
    (remapColumns slots width m).rows
      =
    m.rows.map fun row => scatter (· + ·) slots row (List.replicate width 0) := by
  apply List.map_congr_left
  intro row _
  exact remapVector_eq_scatter slots width row

end Remap

end MathProgram

import MathProgram.Proofs.Checked.Fits
import MathProgram.Proofs.KindMaps
import MathProgram.Proofs.NormalForm
import MathProgram.Proofs.Summation

/-!
# Rows and columns of a grid

A row or a column of a grid of variables is summed when it exists in full.  The sum is
an affine expression without constant, over the ids of its cells, and in exact
arithmetic an id has as its coefficient the number of cells that hold it.

**Failures.**  A row that the grid lacks is refused with the number of rows.  A column
is refused with the length of the first row that does not reach it, so that a grid
without rows has every column.

**Counting twice.**  The columns of a rectangular grid have the cells of its rows in
another order.  Therefore it does not matter whether a grid is summed by rows or by
columns.

**Main statement.**  `ScalarExpr.grid_sums_count_cells`.
-/

namespace MathProgram

/-- The cells of a column from top to bottom, without the rows that do not reach it. -/
def columnCells
    (grid : List Basis)
    (column : Nat) :
    Basis :=
  grid.filterMap fun cells => cells[column]?

section Columns

/-- Reading a row place by place gives the row. -/
theorem flatMap_getElem?_range
    {β : Type}
    (xs : List β) :
    ((List.range xs.length).flatMap fun i => xs[i]?.toList) = xs := by
  induction xs with
  | nil =>
    rfl
  | cons x xs ih =>
    rw [List.length_cons, List.range_succ_eq_map, List.flatMap_cons, List.flatMap_map]
    exact congrArg (x :: ·) ih

/-- The columns of a rectangular grid have the cells of its rows. -/
theorem flatMap_columnCells_perm
    {grid : List Basis}
    {width : Nat}
    (h : ∀ cells ∈ grid, cells.length = width) :
    ((List.range width).flatMap (columnCells grid)).Perm grid.flatten := by
  induction grid with
  | nil =>
    have hnone : columnCells [] = fun _ => [] := by
      rfl
    rw [hnone]
    simp
  | cons cells grid ih =>
    obtain ⟨hcells, hgrid⟩ := List.forall_mem_cons.mp h
    have hstep : columnCells (cells :: grid)
        = fun j => cells[j]?.toList ++ columnCells grid j := by
      funext j
      rw [columnCells, List.filterMap_cons]
      cases cells[j]? <;> rfl
    have hrow : ((List.range width).flatMap fun j => cells[j]?.toList) = cells := by
      rw [← hcells]
      exact flatMap_getElem?_range cells
    rw [hstep, List.flatten_cons]
    refine (List.flatMap_append_perm _ _ _).symm.trans ?_
    rw [hrow]
    exact (ih hgrid).append_left cells

end Columns

namespace ScalarExpr

section Existence

variable {α : Type} [Zero α] [One α] [Add α]

theorem sumRow_eq_ok_iff
    {grid : List Basis}
    {row : Nat}
    {s : ScalarExpr α} :
    sumRow grid row = .ok s ↔ ∃ cells, grid[row]? = some cells ∧ s = sumVars cells := by
  unfold sumRow
  cases grid[row]? with
  | none => simp
  | some cells => simp [eq_comm]

theorem sumRow_eq_error_iff
    {grid : List Basis}
    {row : Nat}
    {cause : ExprError} :
    (sumRow grid row : Except ExprError (ScalarExpr α)) = .error cause
      ↔
    grid.length ≤ row ∧ cause = .dimensionMismatch .gridRowIndex grid.length row := by
  unfold sumRow
  cases hget : grid[row]? with
  | none =>
    have hrow : grid.length ≤ row :=
      List.getElem?_eq_none_iff.mp hget
    simp [hrow, eq_comm]
  | some cells =>
    have hrow : row < grid.length :=
      (List.getElem?_eq_some_iff.mp hget).1
    simp [hrow]

theorem eq_columnCells_of_mapM
    {grid : List Basis}
    {column : Nat}
    {cells : Basis}
    (h : grid.mapM (cellAt column) = .ok cells) :
    cells = columnCells grid column := by
  have hcell (row : Basis) : (cellAt column row).toOption = row[column]? := by
    unfold cellAt
    cases row[column]? <;> rfl
  calc
    cells = (cells.map Except.ok).filterMap (Except.toOption (ε := ExprError)) := by
      rw [List.filterMap_map]
      exact List.filterMap_some.symm
    _ = (grid.map (cellAt column)).filterMap Except.toOption := by
      rw [mapM_eq_ok_iff.mp h]
    _ = columnCells grid column := by
      rw [List.filterMap_map]
      exact congrArg (List.filterMap · grid) (funext hcell)

theorem sumColumn_eq_ok_iff
    {grid : List Basis}
    {column : Nat}
    {s : ScalarExpr α} :
    sumColumn grid column = .ok s
      ↔
    (∀ cells ∈ grid, column < cells.length) ∧ s = sumVars (columnCells grid column) := by
  have hfound {t : ScalarExpr α} (ht : sumColumn grid column = .ok t) :
      t = sumVars (columnCells grid column) := by
    obtain ⟨cells, hcells, rfl⟩ := map_eq_ok_iff.mp ht
    rw [eq_columnCells_of_mapM hcells]
  constructor
  · intro hs
    exact ⟨(exists_sumColumn_iff grid column).mp ⟨s, hs⟩, hfound hs⟩
  · rintro ⟨hlong, rfl⟩
    obtain ⟨t, ht⟩ := (exists_sumColumn_iff (α := α) grid column).mpr hlong
    rw [ht, hfound ht]

/-- A column is refused for the first row that does not reach it. -/
theorem sumColumn_eq_error_iff
    {grid : List Basis}
    {column : Nat}
    {cause : ExprError} :
    (sumColumn grid column : Except ExprError (ScalarExpr α)) = .error cause
      ↔
    ∃ cells, grid.find? (fun cells => ¬ column < cells.length) = some cells ∧
      cause = .dimensionMismatch .gridColumnIndex cells.length column := by
  rw [sumColumn, map_eq_error_iff, mapM_eq_error_iff (exists_cellAt_iff column)]
  apply exists_congr
  intro cells
  apply and_congr_right
  intro hfound
  have hshort : cells.length ≤ column := by
    simpa using List.find?_some hfound
  rw [cellAt, List.getElem?_eq_none hshort, Except.error.injEq, eq_comm]

/-- The second of three rows is too short, and so is the third. -/
example :
    (sumColumn [[⟨0, 0, 1, .binary⟩, ⟨1, 0, 1, .binary⟩], [⟨2, 0, 1, .binary⟩], []] 1 :
      Except ExprError (ScalarExpr Int))
      =
    .error (.dimensionMismatch .gridColumnIndex 1 1) := by
  rfl

/-- All rows of a grid can be summed. -/
theorem mapM_sumRow
    (grid : List Basis) :
    (List.range grid.length).mapM (sumRow grid) = .ok (grid.map (sumVars (α := α))) := by
  rw [mapM_eq_ok_iff]
  apply List.ext_getElem
  · simp
  · intro i hi _
    have hrow : i < grid.length := by
      simpa using hi
    simp only [List.getElem_map, List.getElem_range]
    exact sumRow_eq_ok_iff.mpr ⟨grid[i], List.getElem?_eq_getElem hrow, rfl⟩

/-- All columns of a rectangular grid can be summed. -/
theorem mapM_sumColumn
    {grid : List Basis}
    {width : Nat}
    (h : ∀ cells ∈ grid, cells.length = width) :
    (List.range width).mapM (sumColumn grid)
      =
    .ok (((List.range width).map (columnCells grid)).map (sumVars (α := α))) := by
  rw [mapM_eq_ok_iff, List.map_map, List.map_map]
  apply List.map_congr_left
  intro column hcolumn
  refine sumColumn_eq_ok_iff.mpr ⟨?_, rfl⟩
  intro cells hcells
  rw [h cells hcells]
  exact List.mem_range.mp hcolumn

end Existence

section Sums

variable {α : Type}

/-- An affine expression over the ids of some cells, with no constant if zeros add up to zero. -/
structure SumsCells
    [Zero α]
    [Add α]
    (s : ScalarExpr α)
    (cells : Basis) :
    Prop where
  kind_eq : s.kind = .affine
  ids_eq : s.ids = cells.ids
  constantTerm_eq : (0 : α) + 0 = 0 → s.constantTerm = 0

theorem degree_le_one_of_mem_map_var
    {cells : Basis}
    {item : ScalarExpr α}
    (h : item ∈ cells.map var) :
    item.degree ≤ 1 := by
  obtain ⟨v, _, rfl⟩ := List.mem_map.mp h
  exact Nat.le_refl 1

theorem sumsCells_sumVars
    [Zero α]
    [One α]
    [Add α]
    (cells : Basis) :
    SumsCells (sumVars cells : ScalarExpr α) cells where
  kind_eq := by
    exact kind_sum fun _ hitem => degree_le_one_of_mem_map_var hitem
  ids_eq := by
    have hvars : (cells.map (var : Variable → ScalarExpr α)).flatMap vars = cells := by
      rw [List.flatMap_map]
      exact List.flatMap_singleton' cells
    rw [ids_eq_ids_vars, sumVars, vars_sum, Basis.ids_unique, hvars]
  constantTerm_eq := by
    intro hzero
    rw [sumVars, constantTerm_sum]
    apply runningSum_of_forall_eq_zero hzero
    intro k hk
    obtain ⟨item, hitem, rfl⟩ := List.mem_map.mp hk
    obtain ⟨v, _, rfl⟩ := List.mem_map.mp hitem
    rfl

end Sums

section Counts

variable {α : Type} [CommRing α]

/-- Every id has as its coefficient the number of cells that hold it. -/
structure CountsCells
    (s : ScalarExpr α)
    (cells : Basis) :
    Prop where
  coefficientOf_eq : ∀ id, s.coefficientOf id = (cells.slotIds.count id : α)
  coeffs_eq : s.coeffs = cells.ids.map fun id => (cells.slotIds.count id : α)

theorem coefficientOf_add
    {a b : ScalarExpr α}
    (ha : a.degree ≤ 1)
    (hb : b.degree ≤ 1)
    (id : Nat) :
    (a.add b).coefficientOf id = a.coefficientOf id + b.coefficientOf id := by
  have hdegree : (a.add b).degree ≤ 1 := by
    rw [degree_add]
    omega
  have hvalue := value_unit hdegree id
  rw [value_add, value_unit ha, value_unit hb, constantTerm_add, add_add_add_comm] at hvalue
  exact (add_right_cancel hvalue).symm

theorem coefficientOf_foldl_add
    {items : List (ScalarExpr α)}
    (h : ∀ item ∈ items, item.degree ≤ 1)
    {total : ScalarExpr α}
    (htotal : total.degree ≤ 1)
    (id : Nat) :
    (items.foldl add total).coefficientOf id
      =
    total.coefficientOf id + (items.map fun item => item.coefficientOf id).sum := by
  induction items generalizing total with
  | nil =>
    simp
  | cons item items ih =>
    obtain ⟨hitem, hitems⟩ := List.forall_mem_cons.mp h
    have hstep : (total.add item).degree ≤ 1 := by
      rw [degree_add]
      omega
    rw [List.foldl_cons, ih hitems hstep, coefficientOf_add htotal hitem, List.map_cons,
      List.sum_cons, add_assoc]

/-- The coefficients of the summands are added id by id. -/
theorem coefficientOf_sum
    {items : List (ScalarExpr α)}
    (h : ∀ item ∈ items, item.degree ≤ 1)
    (id : Nat) :
    (sum items).coefficientOf id = (items.map fun item => item.coefficientOf id).sum := by
  have hempty : (empty : ScalarExpr α).coefficientOf id = 0 := by
    rfl
  have hdegree : (empty : ScalarExpr α).degree ≤ 1 := by
    rfl
  rw [sum, coefficientOf_foldl_add h hdegree, hempty, zero_add]

theorem coefficientOf_var
    (v : Variable)
    (id : Nat) :
    (var v : ScalarExpr α).coefficientOf id = if v.id = id then 1 else 0 := by
  by_cases hv : v.id = id <;> simp [coefficientOf, terms, hv]

theorem coeffs_eq_map_coefficientOf
    {a : ScalarExpr α}
    (h : a.degree ≤ 1) :
    a.coeffs = a.ids.map a.coefficientOf := by
  cases a with
  | constant k => rfl
  | var v => simp [coeffs, ids, coefficientOf_var]
  | affine e =>
    have hslots : (affine e).coefficientOf = slotSum e.vars.slotIds e.coeffs :=
      funext e.coefficientOf_eq_slotSum
    rw [hslots]
    exact e.coeffs_folded
  | quadratic e => exact absurd h (Nat.not_succ_le_self 1)

theorem coefficientOf_sumVars
    (cells : Basis)
    (id : Nat) :
    (sumVars cells : ScalarExpr α).coefficientOf id = (cells.slotIds.count id : α) := by
  rw [sumVars, coefficientOf_sum fun _ hitem => degree_le_one_of_mem_map_var hitem, List.map_map]
  induction cells with
  | nil =>
    simp
  | cons v cells ih =>
    rw [List.map_cons, List.sum_cons, ih, Basis.slotIds_cons, List.count_cons, Nat.cast_add]
    simp [coefficientOf_var, add_comm]

theorem countsCells_sumVars
    (cells : Basis) :
    CountsCells (sumVars cells : ScalarExpr α) cells where
  coefficientOf_eq := coefficientOf_sumVars cells
  coeffs_eq := by
    have hcells := sumsCells_sumVars (α := α) cells
    have hdegree : (sumVars cells : ScalarExpr α).degree = 1 :=
      degree_of_kind_eq_affine hcells.kind_eq
    rw [coeffs_eq_map_coefficientOf (Nat.le_of_eq hdegree), hcells.ids_eq]
    exact List.map_congr_left fun id _ => coefficientOf_sumVars cells id

/-- Sums of several lists of cells add up to the count of all cells. -/
theorem coefficientOf_sum_sumVars
    (groups : List Basis)
    (id : Nat) :
    (sum (groups.map sumVars) : ScalarExpr α).coefficientOf id
      =
    ((Basis.slotIds groups.flatten).count id : α) := by
  have hdegree : ∀ item ∈ groups.map (sumVars : Basis → ScalarExpr α), item.degree ≤ 1 := by
    intro item hitem
    obtain ⟨cells, _, rfl⟩ := List.mem_map.mp hitem
    exact Nat.le_of_eq (degree_of_kind_eq_affine (sumsCells_sumVars cells).kind_eq)
  rw [coefficientOf_sum hdegree, List.map_map]
  clear hdegree
  induction groups with
  | nil =>
    simp
  | cons cells groups ih =>
    rw [List.map_cons, List.sum_cons, ih, List.flatten_cons, Basis.slotIds_append,
      List.count_append, Nat.cast_add]
    exact congrArg (· + _) (coefficientOf_sumVars cells id)

/-- The sums of the columns add up to the count of all cells of a rectangular grid. -/
theorem coefficientOf_sum_columns
    {grid : List Basis}
    {width : Nat}
    (h : ∀ cells ∈ grid, cells.length = width)
    (id : Nat) :
    (sum (((List.range width).map (columnCells grid)).map sumVars) : ScalarExpr α).coefficientOf id
      =
    ((Basis.slotIds grid.flatten).count id : α) := by
  have hcount := ((flatMap_columnCells_perm h).map Variable.id).count_eq id
  rw [coefficientOf_sum_sumVars, ← List.flatMap_def]
  exact congrArg Nat.cast hcount

end Counts

/--
Rows and columns are summed exactly where they exist in full, and the refusal of a
column is that of the first row that does not reach it.  The sum is affine, has the
ids of its cells in the order in which they are met, and no constant.  In exact
arithmetic it counts the cells of each id, and for a rectangular grid the sums of all
rows and those of all columns add up to the same counts.
-/
theorem grid_sums_count_cells :
    (∀ (α : Type) [Zero α] [One α] [Add α] (grid : List Basis) (row : Nat),
      ((∃ s : ScalarExpr α, sumRow grid row = .ok s) ↔ row < grid.length) ∧
      (∀ cause, (sumRow grid row : Except ExprError (ScalarExpr α)) = .error cause
        ↔
        grid.length ≤ row ∧ cause = .dimensionMismatch .gridRowIndex grid.length row) ∧
      ∀ s : ScalarExpr α, sumRow grid row = .ok s →
        ∃ cells, grid[row]? = some cells ∧ SumsCells s cells)
      ∧
    (∀ (α : Type) [Zero α] [One α] [Add α] (grid : List Basis) (column : Nat),
      ((∃ s : ScalarExpr α, sumColumn grid column = .ok s)
        ↔
        ∀ cells ∈ grid, column < cells.length) ∧
      (∀ cause, (sumColumn grid column : Except ExprError (ScalarExpr α)) = .error cause
        ↔
        ∃ cells, grid.find? (fun cells => ¬ column < cells.length) = some cells ∧
          cause = .dimensionMismatch .gridColumnIndex cells.length column) ∧
      ∀ s : ScalarExpr α, sumColumn grid column = .ok s → SumsCells s (columnCells grid column))
      ∧
    (∀ (α : Type) [CommRing α] (grid : List Basis) (place : Nat) (s : ScalarExpr α),
      (sumRow grid place = .ok s → ∃ cells, grid[place]? = some cells ∧ CountsCells s cells) ∧
        (sumColumn grid place = .ok s → CountsCells s (columnCells grid place)))
      ∧
    ∀ (α : Type) [CommRing α] (grid : List Basis) (width : Nat),
      (∀ cells ∈ grid, cells.length = width) →
        ∃ byRow byColumn : List (ScalarExpr α),
          (List.range grid.length).mapM (sumRow grid) = .ok byRow ∧
          (List.range width).mapM (sumColumn grid) = .ok byColumn ∧
          ∀ id, (sum byRow).coefficientOf id = ((Basis.slotIds grid.flatten).count id : α) ∧
            (sum byColumn).coefficientOf id = ((Basis.slotIds grid.flatten).count id : α) := by
  refine ⟨?_, ?_, ?_, ?_⟩
  · intro α _ _ _ grid row
    refine ⟨exists_sumRow_iff grid row, fun _ => sumRow_eq_error_iff, ?_⟩
    intro s hs
    obtain ⟨cells, hcells, rfl⟩ := sumRow_eq_ok_iff.mp hs
    exact ⟨cells, hcells, sumsCells_sumVars cells⟩
  · intro α _ _ _ grid column
    refine ⟨exists_sumColumn_iff grid column, fun _ => sumColumn_eq_error_iff, ?_⟩
    intro s hs
    obtain ⟨-, rfl⟩ := sumColumn_eq_ok_iff.mp hs
    exact sumsCells_sumVars _
  · intro α _ grid place s
    constructor
    · intro hs
      obtain ⟨cells, hcells, rfl⟩ := sumRow_eq_ok_iff.mp hs
      exact ⟨cells, hcells, countsCells_sumVars cells⟩
    · intro hs
      obtain ⟨-, rfl⟩ := sumColumn_eq_ok_iff.mp hs
      exact countsCells_sumVars _
  · intro α _ grid width hwidth
    refine ⟨_, _, mapM_sumRow grid, mapM_sumColumn hwidth, ?_⟩
    intro id
    exact ⟨coefficientOf_sum_sumVars grid id, coefficientOf_sum_columns hwidth id⟩

/-- Two rows of three cells, in which two variables come more than once. -/
def twoByThree : List Basis :=
  [[⟨5, 0, 1, .binary⟩, ⟨2, 0, 1, .binary⟩, ⟨5, 0, 1, .binary⟩],
    [⟨2, 0, 1, .binary⟩, ⟨2, 0, 1, .binary⟩, ⟨9, 0, 1, .binary⟩]]

/-- A column with one variable in both cells, and three cells of it in the whole grid. -/
theorem grid_sums_count_cells_twoByThree :
    (∀ cells ∈ twoByThree, cells.length = 3) ∧
      (∃ s : ScalarExpr ℚ, sumColumn twoByThree 1 = .ok s ∧ s.ids = [2] ∧ s.coeffs = [2] ∧
        s.constantTerm = 0) ∧
      ∃ byRow byColumn : List (ScalarExpr ℚ),
        (List.range 2).mapM (sumRow twoByThree) = .ok byRow ∧
        (List.range 3).mapM (sumColumn twoByThree) = .ok byColumn ∧
        (sum byRow).coefficientOf 2 = 3 ∧ (sum byColumn).coefficientOf 2 = 3 := by
  have hwidth : ∀ cells ∈ twoByThree, cells.length = 3 := by
    simp [twoByThree]
  obtain ⟨-, hcolumns, hcounts, hrectangular⟩ := grid_sums_count_cells
  obtain ⟨hexists, -, hshape⟩ := hcolumns ℚ twoByThree 1
  obtain ⟨s, hs⟩ := hexists.mpr fun cells hcells => by rw [hwidth cells hcells]; decide
  have hcells := hshape s hs
  have hcoeffs := ((hcounts ℚ twoByThree 1 s).2 hs).coeffs_eq
  obtain ⟨byRow, byColumn, hbyRow, hbyColumn, hboth⟩ := hrectangular ℚ twoByThree 3 hwidth
  obtain ⟨hrow, hcolumn⟩ := hboth 2
  have hcount : (((Basis.slotIds twoByThree.flatten).count 2 : Nat) : ℚ) = 3 := by
    decide +kernel
  refine ⟨hwidth, ⟨s, hs, hcells.ids_eq, ?_, hcells.constantTerm_eq (add_zero 0)⟩, byRow, byColumn,
    hbyRow, hbyColumn, hrow.trans hcount, hcolumn.trans hcount⟩
  rw [hcoeffs]
  decide +kernel

end ScalarExpr

end MathProgram

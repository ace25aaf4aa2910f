import Mathlib.Algebra.BigOperators.Fin
import Mathlib.Data.List.GetD
import MathProgram.Proofs.Checked.Loops
import MathProgram.Proofs.Moving
import MathProgram.Proofs.RepeatedSlots

/-!
# Moves as one functorial operation

A map between slots moves coefficients, the columns of a matrix, and a square matrix
along both axes.  In exact arithmetic what arrives in a slot is the sum over the fibre of
the map there, so that the three moves are one operation.

**Laws.**  Every move is linear, changes nothing along the identity, keeps what there is
in all, and two moves are the move along the composed map.  `Slotted.IsFunctorial` lists
this for whatever has coefficients at slots.

**Square matrices.**  Moving a square matrix is moving its columns, then those of the
transposed matrix.

**Main statement.**  `moves_are_functorial`.
-/

namespace MathProgram

section Fibres

variable {α : Type} [CommSemiring α]

theorem slotSum_nil
    (slots : List Nat)
    (target : Nat) :
    slotSum slots ([] : List α) target = 0 := by
  simp [slotSum, runningSum]

/-- What is sent to a slot is the sum over the fibre of the slot. -/
theorem slotSum_ofFn
    {n : Nat}
    (m : Fin n → Nat)
    (entries : List α)
    (target : Nat) :
    slotSum (List.ofFn m) entries target = ∑ i with m i = target, entries.getD i 0 := by
  rw [Finset.sum_filter]
  induction n generalizing entries with
  | zero => simp [slotSum, runningSum]
  | succ n ih =>
    rw [List.ofFn_succ, Fin.sum_univ_succ]
    cases entries with
    | nil => simp [slotSum_nil]
    | cons entry entries =>
      rw [slotSum_cons, ih]
      rfl

/-- What is sent to a pair of slots is the sum over the fibres of both. -/
theorem pairSum_ofFn
    {n : Nat}
    (m : Fin n → Nat)
    (rows : List (List α))
    (x y : Nat) :
    pairSum (List.ofFn m) rows x y
      =
    ∑ i with m i = x, ∑ j with m j = y, (rows.getD i []).getD j 0 := by
  rw [pairSum_eq_slotSum, slotSum_ofFn]
  apply Finset.sum_congr rfl
  intro i _
  rw [← slotSum_ofFn, ← slotSum_nil (List.ofFn m) y]
  exact List.getD_map ..

end Fibres

namespace DenseMatrix

section Entries

variable {α : Type} [Zero α]

theorem entry_eq_getD
    (m : DenseMatrix α)
    (i j : Nat) :
    m.entry i j = (m.rows.getD i []).getD j 0 := by
  rw [entry, List.getD_eq_getElem?_getD, List.getD_eq_getElem?_getD]
  cases m.rows[i]? <;> simp

theorem entry_ofFn
    {height cols : Nat}
    {i j : Nat}
    (hi : i < height)
    (hj : j < cols)
    (f : Nat → Nat → α) :
    (ofFn height cols f).entry i j = f i j := by
  simp [entry, ofFn, hi, hj]

/-- Two matrices of one shape with the same entries are equal. -/
theorem ext_entry
    {a b : DenseMatrix α}
    (hcols : a.cols = b.cols)
    (hrows : a.rows.length = b.rows.length)
    (h : ∀ i < b.rows.length, ∀ j < b.cols, a.entry i j = b.entry i j) :
    a = b := by
  have hsame :
      ((List.range b.rows.length).map fun i => (List.range b.cols).map (a.entry i))
        =
      (List.range b.rows.length).map fun i => (List.range b.cols).map (b.entry i) := by
    apply List.map_congr_left
    intro i hi
    apply List.map_congr_left
    intro j hj
    exact h i (List.mem_range.mp hi) j (List.mem_range.mp hj)
  exact ext_rows hcols
    ((rows_eq_map_entry hrows hcols).trans (hsame.trans (rows_eq_map_entry rfl rfl).symm))

/-- The matrix with rows and columns exchanged. -/
def transpose
    (m : DenseMatrix α) :
    DenseMatrix α :=
  .ofFn m.cols m.rows.length fun i j => m.entry j i

@[simp] theorem cols_transpose
    (m : DenseMatrix α) :
    m.transpose.cols = m.rows.length := by
  rfl

@[simp] theorem length_rows_transpose
    (m : DenseMatrix α) :
    m.transpose.rows.length = m.cols :=
  length_rows_ofFn ..

theorem entry_transpose
    {m : DenseMatrix α}
    {i j : Nat}
    (hi : i < m.cols)
    (hj : j < m.rows.length) :
    m.transpose.entry i j = m.entry j i :=
  entry_ofFn hi hj _

/-- A transposed matrix has the columns of the matrix as its rows. -/
theorem getD_rows_transpose
    {m : DenseMatrix α}
    {j : Nat}
    (h : j < m.cols) :
    m.transpose.rows.getD j [] = m.rows.map fun row => row.getD j 0 := by
  have hrow :
      m.transpose.rows.getD j [] = (List.range m.rows.length).map fun i => m.entry i j := by
    simp [transpose, ofFn, h]
  rw [hrow]
  apply List.ext_getElem
  · simp
  · intro i hi _
    have hlt : i < m.rows.length := by simpa using hi
    rw [List.getElem_map, List.getElem_map, List.getElem_range,
      entry_of_getElem? (List.getElem?_eq_getElem hlt)]

/-- A matrix is the transpose of its transpose. -/
theorem transpose_transpose
    (m : DenseMatrix α) :
    m.transpose.transpose = m := by
  apply ext_entry
  · simp
  · simp
  · intro i hi j hj
    rw [entry_transpose (by simpa using hi) (by simpa using hj), entry_transpose hj hi]

end Entries

end DenseMatrix

section MovedEntries

variable {α : Type} [CommSemiring α] (slots : List Nat) {width : Nat}

theorem getD_remapVector
    {target : Nat}
    (h : target < width)
    (coeffs : List α) :
    (remapVector slots width coeffs).getD target 0 = slotSum slots coeffs target := by
  simp [remapVector_eq_map, h]

theorem entry_remapColumns
    {column : Nat}
    (h : column < width)
    (m : DenseMatrix α)
    (row : Nat) :
    (remapColumns slots width m).entry row column
      =
    slotSum slots (m.rows.getD row []) column := by
  have hrow :
      (remapColumns slots width m).rows[row]? = m.rows[row]?.map (remapVector slots width) :=
    List.getElem?_map ..
  rw [DenseMatrix.entry, hrow, List.getD_eq_getElem?_getD]
  cases m.rows[row]? with
  | none => exact (slotSum_nil slots column).symm
  | some coeffs =>
    exact (List.getD_eq_getElem?_getD ..).symm.trans (getD_remapVector slots h coeffs)

theorem entry_remapSquare
    {row column : Nat}
    (hrow : row < width)
    (hcolumn : column < width)
    (m : DenseMatrix α) :
    (remapSquare slots width m).entry row column = pairSum slots m.rows row column :=
  DenseMatrix.entry_ofFn hrow hcolumn _

/-- A square matrix is moved by moving columns, before and after it is transposed. -/
theorem remapSquare_eq_columns
    (width : Nat)
    (m : DenseMatrix α) :
    remapSquare slots width m
      =
    (remapColumns slots width (remapColumns slots width m).transpose).transpose := by
  apply DenseMatrix.ext_entry
  · simp
  · simp
  · intro i hi j hj
    have hrow : i < width := by simpa using hi
    have hcolumn : j < width := by simpa using hj
    have hcolumns :
        (remapColumns slots width m).transpose.rows.getD j []
          =
        m.rows.map fun row => slotSum slots row j := by
      rw [DenseMatrix.getD_rows_transpose hcolumn, remapColumns, List.map_map]
      apply List.map_congr_left
      intro row _
      exact getD_remapVector slots hcolumn row
    calc (remapSquare slots width m).entry i j
        = slotSum slots (m.rows.map fun row => slotSum slots row j) i := by
          rw [entry_remapSquare slots hrow hcolumn, pairSum_eq_slotSum]
      _ = (remapColumns slots width (remapColumns slots width m).transpose).entry j i := by
          rw [entry_remapColumns slots hrow, hcolumns]
      _ = _ := (DenseMatrix.entry_transpose (by simpa using hrow) (by simpa using hcolumn)).symm

end MovedEntries

section SlotMaps

variable {n w v : Nat}

/-- The slot list of a map between slots. -/
def slotsOf
    (m : Fin n → Fin w) :
    List Nat :=
  List.ofFn fun i => (m i : Nat)

@[simp] theorem length_slotsOf
    (m : Fin n → Fin w) :
    (slotsOf m).length = n :=
  List.length_ofFn

theorem lt_of_mem_slotsOf
    {m : Fin n → Fin w}
    {slot : Nat}
    (h : slot ∈ slotsOf m) :
    slot < w := by
  obtain ⟨i, rfl⟩ := List.mem_ofFn.mp h
  exact (m i).isLt

theorem thenSlots_slotsOf
    (m : Fin n → Fin w)
    (next : Fin w → Fin v) :
    thenSlots (slotsOf m) (slotsOf next) = slotsOf (next ∘ m) := by
  simp [thenSlots, slotsOf, List.map_ofFn, Function.comp_def]

/-- The slots of one map are slots that the next one moves. -/
theorem lt_length_slotsOf
    (m : Fin n → Fin w)
    (next : Fin w → Fin v) :
    ∀ slot ∈ slotsOf m, slot < (slotsOf next).length := by
  intro slot hslot
  rw [length_slotsOf]
  exact lt_of_mem_slotsOf hslot

variable {α : Type} [CommSemiring α]

theorem slotSum_slotsOf
    (m : Fin n → Fin w)
    (entries : List α)
    (j : Fin w) :
    slotSum (slotsOf m) entries j = ∑ i with m i = j, entries.getD i 0 := by
  simp only [slotsOf, slotSum_ofFn, Fin.val_inj]

theorem remapVector_id
    {c : List α}
    (h : c.length = n) :
    remapVector (slotsOf (id : Fin n → Fin n)) n c = c := by
  have hentries :
      (List.range n).map (slotSum (slotsOf (id : Fin n → Fin n)) c)
        =
      (List.range n).map fun j => c.getD j 0 := by
    apply List.map_congr_left
    intro j hj
    have hfibre := slotSum_slotsOf id c (⟨j, List.mem_range.mp hj⟩ : Fin n)
    simpa [Finset.filter_eq'] using hfibre
  rw [remapVector_eq_map, hentries, map_range_getD h]

/-- Moving coefficients keeps their sum. -/
theorem sum_remapVector
    (m : Fin n → Fin w)
    {c : List α}
    (h : c.length = n) :
    (remapVector (slotsOf m) w c).sum = c.sum := by
  calc (remapVector (slotsOf m) w c).sum
      = ∑ j ∈ Finset.range w, slotSum (slotsOf m) c j := rfl
    _ = ∑ j : Fin w, ∑ i with m i = j, c.getD i 0 := by
      simp only [Finset.sum_range, slotSum_slotsOf]
    _ = ∑ i : Fin n, c.getD i 0 := Finset.sum_fiberwise ..
    _ = ((List.range n).map fun i => c.getD i 0).sum :=
      (Finset.sum_range fun i => c.getD i 0).symm
    _ = c.sum := by rw [map_range_getD h]

theorem remapColumns_id
    {l : DenseMatrix α}
    (h : l.cols = n) :
    remapColumns (slotsOf (id : Fin n → Fin n)) n l = l := by
  apply DenseMatrix.ext_rows h.symm
  have hrows : ∀ row ∈ l.rows, remapVector (slotsOf (id : Fin n → Fin n)) n row = id row :=
    fun row hrow => remapVector_id ((l.width row hrow).trans h)
  exact (List.map_congr_left hrows).trans (List.map_id _)

theorem map_sum_remapColumns
    (m : Fin n → Fin w)
    {l : DenseMatrix α}
    (h : l.cols = n) :
    (remapColumns (slotsOf m) w l).rows.map List.sum = l.rows.map List.sum := by
  rw [remapColumns, List.map_map]
  apply List.map_congr_left
  intro row hrow
  exact sum_remapVector m ((l.width row hrow).trans h)

/-- All entries can be added row by row or column by column. -/
theorem sum_transpose
    (m : DenseMatrix α) :
    (m.transpose.rows.map List.sum).sum = (m.rows.map List.sum).sum := by
  have hrows (a : DenseMatrix α) :
      (a.rows.map List.sum).sum
        =
      ∑ i ∈ Finset.range a.rows.length, ∑ j ∈ Finset.range a.cols, a.entry i j := by
    have hentries :
        a.rows.map List.sum
          =
        (List.range a.rows.length).map fun i => ((List.range a.cols).map (a.entry i)).sum := by
      conv_lhs => rw [DenseMatrix.rows_eq_map_entry rfl rfl, List.map_map]
      rfl
    exact congrArg List.sum hentries
  rw [hrows, hrows, Finset.sum_comm, DenseMatrix.cols_transpose, DenseMatrix.length_rows_transpose]
  apply Finset.sum_congr rfl
  intro i hi
  apply Finset.sum_congr rfl
  intro j hj
  exact DenseMatrix.entry_transpose (Finset.mem_range.mp hj) (Finset.mem_range.mp hi)

theorem remapSquare_id
    {q : DenseMatrix α}
    (hrows : q.rows.length = n)
    (hcols : q.cols = n) :
    remapSquare (slotsOf (id : Fin n → Fin n)) n q = q := by
  rw [remapSquare_eq_columns, remapColumns_id hcols, remapColumns_id (by simpa using hrows),
    DenseMatrix.transpose_transpose]

theorem sum_remapSquare
    (m : Fin n → Fin w)
    {q : DenseMatrix α}
    (hrows : q.rows.length = n)
    (hcols : q.cols = n) :
    ((remapSquare (slotsOf m) w q).rows.map List.sum).sum = (q.rows.map List.sum).sum := by
  rw [remapSquare_eq_columns, sum_transpose, map_sum_remapColumns m (by simpa using hrows),
    sum_transpose, map_sum_remapColumns m hcols]

end SlotMaps

/--
Things with coefficients at slots: how they are moved along a map, added, multiplied by a
factor, and what there is in all.
-/
structure Slotted (α : Type) where
  Over : Nat → Type
  Total : Type
  move {n w : Nat} : (Fin n → Fin w) → Over n → Over w
  add {n : Nat} : Over n → Over n → Over n
  scale {n : Nat} : Over n → α → Over n
  total {n : Nat} : Over n → Total

/-- Moves are linear, follow the composition of maps, and keep what there is in all. -/
structure Slotted.IsFunctorial
    {α : Type}
    (F : Slotted α) :
    Prop where
  move_add {n w : Nat} : ∀ (m : Fin n → Fin w) (x y : F.Over n),
    F.move m (F.add x y) = F.add (F.move m x) (F.move m y)
  move_scale {n w : Nat} : ∀ (m : Fin n → Fin w) (x : F.Over n) (factor : α),
    F.move m (F.scale x factor) = F.scale (F.move m x) factor
  move_id {n : Nat} : ∀ x : F.Over n, F.move id x = x
  move_move {n w v : Nat} : ∀ (m : Fin n → Fin w) (next : Fin w → Fin v) (x : F.Over n),
    F.move next (F.move m x) = F.move (next ∘ m) x
  total_move {n w : Nat} : ∀ (m : Fin n → Fin w) (x : F.Over n), F.total (F.move m x) = F.total x

namespace Slotted

section Families

variable (α : Type) [CommSemiring α]

/-- A matrix of a known shape. -/
abbrev Shaped
    (height cols : Nat) :
    Type :=
  { m : DenseMatrix α // m.rows.length = height ∧ m.cols = cols }

/-- One coefficient for every slot. -/
def vectors : Slotted α where
  Over n := { c : List α // c.length = n }
  Total := α
  move m c := ⟨remapVector (slotsOf m) _ c, length_remapVector ..⟩
  add c d := ⟨List.zipWith (· + ·) c d, by simp [c.2, d.2]⟩
  scale c factor := ⟨c.val.map (· * factor), by simp [c.2]⟩
  total c := c.val.sum

/-- Matrices with a column for every slot, moved row by row; every row has a total. -/
def columns
    (height : Nat) :
    Slotted α where
  Over n := Shaped α height n
  Total := List α
  move m l := ⟨remapColumns (slotsOf m) _ l, by simp [l.2.1], rfl⟩
  add a b := ⟨a.val.add b (a.2.2.trans b.2.2.symm), by simp [a.2.1, b.2.1], a.2.2⟩
  scale l factor := ⟨l.val.scale factor, by simp [l.2.1], l.2.2⟩
  total l := l.val.rows.map List.sum

/-- Square matrices with a row and a column for every slot. -/
def squares : Slotted α where
  Over n := Shaped α n n
  Total := α
  move m q := ⟨remapSquare (slotsOf m) _ q, by simp, rfl⟩
  add a b := ⟨a.val.add b (a.2.2.trans b.2.2.symm), by simp [a.2.1, b.2.1], a.2.2⟩
  scale q factor := ⟨q.val.scale factor, by simp [q.2.1], q.2.2⟩
  total q := (q.val.rows.map List.sum).sum

variable {α}

theorem vectors_isFunctorial : (vectors α).IsFunctorial where
  move_add m c d := Subtype.ext (remapVector_zipWith_add (c.2.trans d.2.symm) (slotsOf m) _)
  move_scale m c factor := Subtype.ext (remapVector_map_mul (slotsOf m) _ c.val factor)
  move_id c := Subtype.ext (remapVector_id c.2)
  move_move := fun {n w v} m next c => by
    have hmoved := remapVector_remapVector (lt_length_slotsOf m next) v c.val
    rw [length_slotsOf, thenSlots_slotsOf] at hmoved
    exact Subtype.ext hmoved
  total_move m c :=
    show (remapVector (slotsOf m) _ c.val).sum = c.val.sum from sum_remapVector m c.2

theorem columns_isFunctorial
    (height : Nat) :
    (columns α height).IsFunctorial where
  move_add m a b := Subtype.ext (remapColumns_add (a.2.2.trans b.2.2.symm) (slotsOf m) _)
  move_scale m l factor := Subtype.ext (remapColumns_scale (slotsOf m) _ l.val factor)
  move_id l := Subtype.ext (remapColumns_id l.2.2)
  move_move := fun {n w v} m next l => by
    have hmoved := remapColumns_remapColumns (lt_length_slotsOf m next) v l.val
    rw [length_slotsOf, thenSlots_slotsOf] at hmoved
    exact Subtype.ext hmoved
  total_move m l := map_sum_remapColumns m l.2.2

theorem squares_isFunctorial : (squares α).IsFunctorial where
  move_add m a b :=
    Subtype.ext
      (remapSquare_add (a.2.1.trans b.2.1.symm) (a.2.2.trans b.2.2.symm) (slotsOf m) _)
  move_scale m q factor := Subtype.ext (remapSquare_scale (slotsOf m) _ q.val factor)
  move_id q := Subtype.ext (remapSquare_id q.2.1 q.2.2)
  move_move := fun {n w v} m next q => by
    have hmoved := remapSquare_remapSquare (lt_length_slotsOf m next) v q.val
    rw [length_slotsOf, thenSlots_slotsOf] at hmoved
    exact Subtype.ext hmoved
  total_move m q :=
    show ((remapSquare (slotsOf m) _ q.val).rows.map List.sum).sum = (q.val.rows.map List.sum).sum
      from sum_remapSquare m q.2.1 q.2.2

end Families

end Slotted

section Main

/--
What a map between slots moves where: every slot gets the sum over its fibre, a square
matrix is moved by its columns, and checked loops over the slot list do all this.
-/
structure MovesAlong
    (α : Type)
    [CommSemiring α]
    {n w : Nat}
    (m : Fin n → Fin w) :
    Prop where
  vector : ∀ (c : List α) (j : Fin w),
    (remapVector (slotsOf m) w c).getD j 0 = ∑ i with m i = j, c.getD i 0
  columns : ∀ (l : DenseMatrix α) (row : Nat) (j : Fin w),
    (remapColumns (slotsOf m) w l).entry row j = ∑ i with m i = j, l.entry row i
  square : ∀ (q : DenseMatrix α) (j k : Fin w),
    (remapSquare (slotsOf m) w q).entry j k
      =
    ∑ i with m i = j, ∑ i' with m i' = k, q.entry i i'
  square_by_columns : ∀ q : DenseMatrix α,
    remapSquare (slotsOf m) w q
      =
    (remapColumns (slotsOf m) w (remapColumns (slotsOf m) w q).transpose).transpose
  vector_loop : ∀ c : (Slotted.vectors α).Over n,
    Checked.moveVector (slotsOf m) w c.val = .ok ((Slotted.vectors α).move m c).val
  columns_loop : ∀ (height : Nat) (l : (Slotted.columns α height).Over n),
    Checked.moveColumns (slotsOf m) w l.val = .ok ((Slotted.columns α height).move m l).val
  square_loop : ∀ q : (Slotted.squares α).Over n,
    Checked.moveSquare (slotsOf m) w q.val = .ok ((Slotted.squares α).move m q).val

variable {α : Type} [CommSemiring α] {n w : Nat}

theorem movesAlong
    (m : Fin n → Fin w) :
    MovesAlong α m where
  vector c j := by rw [getD_remapVector _ j.isLt, slotSum_slotsOf]
  columns l row j := by
    rw [entry_remapColumns _ j.isLt, slotSum_slotsOf]
    simp only [DenseMatrix.entry_eq_getD]
  square q j k := by
    rw [entry_remapSquare _ j.isLt k.isLt, slotsOf, pairSum_ofFn]
    simp only [DenseMatrix.entry_eq_getD, Fin.val_inj]
  square_by_columns q := remapSquare_eq_columns (slotsOf m) w q
  vector_loop c :=
    Checked.moveVector_eq_ok (by rw [length_slotsOf, c.2]) fun _ => lt_of_mem_slotsOf
  columns_loop height l :=
    Checked.moveColumns_eq_ok (by rw [length_slotsOf, l.2.2]) fun _ => lt_of_mem_slotsOf
  square_loop q :=
    Checked.moveSquare_eq_ok (by rw [length_slotsOf, q.2.1]) (by rw [length_slotsOf, q.2.2])
      fun _ => lt_of_mem_slotsOf

/--
In exact arithmetic coefficients, columns and square matrices are moved alike: linearly,
along the composition of maps, and keeping what there is in all; every slot gets the sum
over its fibre.
-/
theorem moves_are_functorial
    (α : Type)
    [CommSemiring α] :
    (Slotted.vectors α).IsFunctorial ∧
      (∀ height, (Slotted.columns α height).IsFunctorial) ∧
      (Slotted.squares α).IsFunctorial ∧
      ∀ (n w : Nat) (m : Fin n → Fin w), MovesAlong α m :=
  ⟨Slotted.vectors_isFunctorial, Slotted.columns_isFunctorial, Slotted.squares_isFunctorial,
    fun _ _ m => movesAlong m⟩

end Main

end MathProgram

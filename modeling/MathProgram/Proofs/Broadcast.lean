import MathProgram.Proofs.ChangeOfBasis
import MathProgram.Proofs.MixedShapes
import MathProgram.Proofs.ResultIds

/-!
# Constants beside vectors

A constant can be added to a vector in two ways: to every offset, or as a vector
that repeats it.  The first way leaves the matrix alone.  The second one aligns the
matrix with a matrix that has no columns, so that the columns of a repeated id are
gathered.

In exact arithmetic both ways give the same values.  The second result is the first
one folded, so that the two are equal exactly when the basis repeats no id.

**Results.**
* `AffineVector.add_repeated`: adding a repeated constant is folding and shifting.
* `VectorExpr.toAffine_sum_broadcast`: the same for vectors of all kinds.
* `VectorExpr.shift_agrees_with_broadcast`: the two ways beside each other.
-/

namespace MathProgram

section Repeated

variable {α : Type}

/-- Against a list that repeats one entry a list is combined entry by entry. -/
theorem zipWith_replicate
    {β γ : Type}
    (f : α → β → γ)
    {xs : List α}
    {n : Nat}
    (h : xs.length = n)
    (b : β) :
    List.zipWith f xs (List.replicate n b) = xs.map fun a => f a b := by
  rw [← h, ← List.map_const', List.zipWith_map_right, List.zipWith_self]

theorem remapVector_nil
    [Zero α]
    [Add α]
    (slots : List Nat)
    (width : Nat) :
    remapVector slots width ([] : List α) = List.replicate width 0 := by
  simp [remapVector, entriesAt, runningSum, List.map_const']

end Repeated

namespace AffineVector

section Repeated

variable {α : Type}

/-- The vector that has one constant in all of its components. -/
def repeated
    [Zero α]
    (n : Nat)
    (k : α) :
    AffineVector α :=
  ofConstants (List.replicate n k)

/-- There is nothing to move in a constant vector: it becomes a matrix of zeros. -/
theorem rows_remap_repeated
    [Zero α]
    [Add α]
    (n : Nat)
    (k : α)
    (target : Basis)
    (slots : List Nat) :
    ((repeated n k).remap target slots).matrix.rows
      =
    List.replicate n (List.replicate target.length 0) := by
  have hrows : ((repeated n k).remap target slots).matrix.rows
      = (DenseMatrix.zeros (List.replicate n k).length 0).rows.map
          (remapVector slots target.length) := rfl
  rw [hrows, DenseMatrix.rows_zeros, List.map_replicate, List.replicate_zero, remapVector_nil,
    List.length_replicate]

/-- Added slot by slot, a repeated constant reaches nothing but the offsets. -/
theorem addSlots_repeated
    [AddZeroClass α]
    (e : AffineVector α)
    (k : α)
    {target : Basis}
    (htarget : e.vars = target)
    (slots : List Nat) :
    e.addSlots ((repeated e.length k).remap target slots) (congrArg List.length htarget)
      =
    e.shift k := by
  subst htarget
  have hrow (row : List α) (hmem : row ∈ e.matrix.rows) :
      List.zipWith (· + ·) row (List.replicate e.vars.length 0) = row := by
    have hlength : row.length = e.vars.length :=
      (e.matrix.width row hmem).trans e.matrix_cols
    rw [zipWith_replicate _ hlength]
    simp
  have hheight : e.matrix.rows.length = e.length := e.matrix_rows
  have hrows : List.zipWith (List.zipWith (· + ·)) e.matrix.rows
      ((repeated e.length k).remap e.vars slots).matrix.rows = e.matrix.rows := by
    rw [rows_remap_repeated, zipWith_replicate _ hheight]
    exact (List.map_congr_left hrow).trans (List.map_id' _)
  ext1
  · rfl
  · exact DenseMatrix.ext_rows rfl hrows
  · exact zipWith_replicate (· + ·) rfl k

variable [CommSemiring α]

/-- Shifting leaves the slots alone, so that it can be done before or after folding. -/
theorem folded_shift
    (e : AffineVector α)
    (k : α) :
    (slotted α).folded (e.shift k) = ((slotted α).folded e).shift k := by
  rfl

theorem folded_of_nodup
    {e : AffineVector α}
    (h : e.vars.slotIds.Nodup) :
    (slotted α).folded e = e := by
  have hself := (exact_slotted α).reindex_self (slotted α) (e := e) rfl h
  have hfolded := (slotted α).reindex_unique e
  have hvars : ((slotted α).vars e).unique = e.vars := Basis.unique_of_nodup h
  rw [hvars] at hfolded
  exact Except.ok.inj (hfolded.symm.trans hself)

/--
Adding a repeated constant folds a vector and shifts it.  The sum is over the basis
without repeats already, so that it is what its operands add up to there.
-/
theorem add_repeated
    (e : AffineVector α)
    (k : α) :
    (slotted α).add e (repeated e.length k) = ((slotted α).folded e).shift k := by
  have hconstant : (slotted α).reindex (repeated e.length k) e.vars.unique
      = .ok ((repeated e.length k).remap e.vars.unique []) := rfl
  have hmoved :=
    (exact_slotted α).reindex_add (slotted α) ((slotted α).reindex_unique e) hconstant
  have hvars : (slotted α).vars ((slotted α).add e (repeated e.length k)) = e.vars.unique := by
    rw [(slotted α).vars_add]
    exact e.vars.merge_nil
  have hself :=
    (exact_slotted α).reindex_self (slotted α) hvars e.vars.nodup_unique
  have hfolded : ((slotted α).folded e).vars = e.vars.unique := Basis.fst_fold _
  rw [Except.ok.inj (hself.symm.trans hmoved)]
  exact addSlots_repeated ((slotted α).folded e) k hfolded []

end Repeated

end AffineVector

namespace VectorExpr

section Broadcast

variable {α : Type} [CommRing α]

/-- Whatever its kind, a vector plus a repeated constant is that vector folded and shifted. -/
theorem toAffine_sum_broadcast
    (e : VectorExpr α)
    (k : α) :
    (e.sum (broadcast k e.length)).toAffine
      =
    (AffineVector.slotted α).folded (e.shift k).toAffine := by
  have hbroadcast : (broadcast k e.length).toAffine
      = AffineVector.repeated e.toAffine.length k := by
    rw [length_toAffine]
    rfl
  rw [toAffine_sum, hbroadcast, AffineVector.add_repeated, toAffine_shift,
    AffineVector.folded_shift]

theorem kind_sum_broadcast
    (e : VectorExpr α)
    (k : α) :
    (e.sum (broadcast k e.length)).kind = (e.shift k).kind := by
  have hbroadcast : (broadcast k e.length).kind = .constantVector := rfl
  rw [kind_sum, kind_shift, hbroadcast]
  simp

theorem basis_sum_broadcast
    (e : VectorExpr α)
    (k : α) :
    (e.sum (broadcast k e.length)).basis = e.basis.unique := by
  rw [basis_sum]
  exact e.basis.merge_nil

/-- The two ways to add a constant give one structure exactly over a basis without repeats. -/
theorem sum_broadcast_eq_shift_iff
    (e : VectorExpr α)
    (k : α) :
    e.sum (broadcast k e.length) = e.shift k ↔ e.basis.slotIds.Nodup := by
  constructor
  · intro h
    have hbasis := congrArg basis h
    rw [basis_sum_broadcast, basis_shift] at hbasis
    rw [← hbasis]
    exact e.basis.nodup_unique
  · intro h
    apply ext_toAffine (kind_sum_broadcast e k)
    rw [toAffine_sum_broadcast]
    apply AffineVector.folded_of_nodup
    rwa [vars_toAffine, basis_shift]

theorem valueAt_broadcast
    (k : α)
    {n i : Nat}
    (hi : i < n)
    (x : Assignment α) :
    (broadcast k n).valueAt i x = .ok k := by
  have hget : (List.replicate n k)[i]? = some k := by
    rw [List.getElem?_replicate, if_pos hi]
  simp only [valueAt, broadcast, component, hget]
  rfl

/-- A constant in every component is worth as much as a constant added to every component. -/
theorem valueAt_sum_broadcast
    (e : VectorExpr α)
    (k : α)
    (i : Nat)
    (x : Assignment α) :
    (e.sum (broadcast k e.length)).valueAt i x = (e.shift k).valueAt i x := by
  have hlength : e.length = (broadcast k e.length).length := (length_broadcast k _).symm
  by_cases hi : i < e.length
  · obtain ⟨p, q, hp, hq, hsum⟩ := valueAt_sum hlength hi x
    obtain rfl : q = k := Except.ok.inj (hq.symm.trans (valueAt_broadcast k hi x))
    rw [hsum, valueAt_shift, hp]
    rfl
  · have hle : e.length ≤ i := Nat.not_lt.mp hi
    have hsum := length_sum hlength
    rw [valueAt, component_of_length_le (by rwa [hsum]), valueAt,
      component_of_length_le (by rwa [length_shift]), hsum, length_shift]

/--
Adding a constant to every component of a vector, and adding the vector that repeats
it.  Both are always defined, with one kind, one length, the same offsets and the
same value at every place.  They are one structure exactly over a basis without
repeats, such as that of a constant vector.  In any case the first way keeps the
basis, the second one drops its repeats, and the first result moved there is the
second one.  Two constants added one after the other are their sum added at once.
-/
theorem shift_agrees_with_broadcast
    (e : VectorExpr α)
    (k : α) :
    ∃ s, e.add (broadcast k e.length) = .ok s ∧
      (s.kind = (e.shift k).kind ∧ s.length = e.length ∧ (e.shift k).length = e.length) ∧
      s.toAffine.offset = (e.shift k).toAffine.offset ∧
      (∀ i x, s.valueAt i x = (e.shift k).valueAt i x) ∧
      (s = e.shift k ↔ e.basis.slotIds.Nodup) ∧
      ((e.shift k).basis = e.basis ∧ s.basis = e.basis.unique ∧
        (e.shift k).toAffine.reindex e.basis.unique = .ok s.toAffine) ∧
      ∀ j, (e.shift j).shift k = e.shift (j + k) := by
  have hlength : e.length = (broadcast k e.length).length := (length_broadcast k _).symm
  have hmoved := (AffineVector.slotted α).reindex_unique (e.shift k).toAffine
  have hvars : ((AffineVector.slotted α).vars (e.shift k).toAffine).unique = e.basis.unique := by
    have hshift : (e.shift k).toAffine.vars = e.basis := by
      rw [vars_toAffine, basis_shift]
    exact congrArg Basis.unique hshift
  refine ⟨e.sum (broadcast k e.length), add_of_length_eq hlength,
    ⟨kind_sum_broadcast e k, length_sum hlength, e.length_shift k⟩, ?_,
    valueAt_sum_broadcast e k, sum_broadcast_eq_shift_iff e k,
    ⟨e.basis_shift k, basis_sum_broadcast e k, ?_⟩, fun j => e.shift_shift j k⟩
  · rw [toAffine_sum_broadcast]
    rfl
  · rw [toAffine_sum_broadcast, ← hvars]
    exact hmoved

/-- Two columns of one id stay as they are in the first way, and are gathered in the second. -/
example :
    let v : Variable := { id := 4, lower := 0, upper := 1, kind := .binary }
    let e : VectorExpr Int := .affine ⟨[v, v], ⟨2, [[1, 1]], by decide⟩, [0], rfl, rfl⟩
    e.shift 3 = .affine ⟨[v, v], ⟨2, [[1, 1]], by decide⟩, [3], rfl, rfl⟩ ∧
      e.add (.broadcast 3 1) = .ok (.affine ⟨[v], ⟨1, [[2]], by decide⟩, [3], rfl, rfl⟩) := by
  exact ⟨rfl, rfl⟩

end Broadcast

end VectorExpr

end MathProgram

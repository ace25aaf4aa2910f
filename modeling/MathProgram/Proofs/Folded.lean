import MathProgram.Proofs.Alignment
import MathProgram.Proofs.BasisUnion
import MathProgram.Proofs.SlotSum

/-!
# Reading expressions id by id

Folding an expression leaves one slot for each of its ids.  What stands there is
the coefficient of the id, and in the folded matrix the entry of an ordered pair
of ids: the sum of everything that the expression itself has under the id or the
pair, added to zero in slot order.

**Results.**
* `Affine.foldedCoeff?_eq`, `Quadratic.foldedEntry?_eq`: the folded coefficients
  as sums over slots.
* `Affine.coeffs_add_of_slotIds_ne`, `Quadratic.rows_add_of_slotIds_ne`: over a
  union a sum has under every id what its operands have under it, added once.

No law of arithmetic is used.
-/

namespace MathProgram

section Reading

variable {α : Type} [Zero α] [Add α]

/-- What a basis lists id by id is found under every id it has. -/
theorem Basis.bind_position?_map
    {γ : Type}
    (basis : Basis)
    (f : Nat → γ)
    (id : Nat) :
    ((basis.position? id).bind fun slot => (basis.slotIds.map f)[slot]?)
      =
    if id ∈ basis.slotIds then some (f id) else none := by
  cases hposition : basis.position? id with
  | none =>
    rw [if_neg (Basis.position?_eq_none_iff.mp hposition)]
    rfl
  | some slot =>
    have hid : id ∈ basis.slotIds := Basis.exists_position?_iff.mp ⟨slot, hposition⟩
    have hheld : basis.slotIds[slot]? = some id := Basis.getElem?_slotIds_of_position? hposition
    rw [if_pos hid, Option.bind_some, List.getElem?_map, hheld]
    rfl

theorem Basis.nodup_union
    (a b : Basis) :
    (a.union b).basis.slotIds.Nodup := by
  rw [Basis.union_basis]
  exact Basis.nodup_unique _

theorem Basis.nodup_fold
    (basis : Basis) :
    basis.fold.1.slotIds.Nodup := by
  rw [Basis.fst_fold]
  exact Basis.nodup_unique _

theorem Basis.mem_slotIds_fold
    {basis : Basis}
    {id : Nat} :
    id ∈ basis.fold.1.slotIds ↔ id ∈ basis.slotIds := by
  rw [Basis.fst_fold]
  exact Basis.mem_slotIds_unique

namespace Affine

/-- The coefficient of an id in the folded expression. -/
def foldedCoeff?
    (e : Affine α)
    (id : Nat) :
    Option α :=
  (e.folded.vars.position? id).bind fun slot => e.folded.coeffs[slot]?

/-- The folded coefficient of an id is the sum over the slots that hold it. -/
theorem foldedCoeff?_eq
    (e : Affine α)
    (id : Nat) :
    e.foldedCoeff? id
      =
    if id ∈ e.vars.slotIds then some (slotSum e.vars.slotIds e.coeffs id) else none := by
  have hcoeffs : e.folded.coeffs = e.vars.fold.1.slotIds.map (slotSum e.vars.slotIds e.coeffs) :=
    Basis.remapVector_of_nodup (Basis.slotMap_fold e.vars) (Basis.nodup_fold e.vars) e.coeffs
  rw [foldedCoeff?, hcoeffs]
  refine (Basis.bind_position?_map e.vars.fold.1 _ id).trans ?_
  simp only [Basis.mem_slotIds_fold]

/-- Over a union a sum has under every id what its operands have under it. -/
theorem coeffs_add_of_slotIds_ne
    {a b : Affine α}
    (h : a.vars.slotIds ≠ b.vars.slotIds) :
    (a.add b).coeffs
      =
    (a.add b).vars.slotIds.map fun id =>
      slotSum a.vars.slotIds a.coeffs id + slotSum b.vars.slotIds b.coeffs id := by
  have hnodup := Basis.nodup_union a.vars b.vars
  have hleft := Basis.remapVector_of_nodup (Basis.slotMap_union_left a.vars b.vars) hnodup a.coeffs
  have hright :=
    Basis.remapVector_of_nodup (Basis.slotMap_union_right a.vars b.vars) hnodup b.coeffs
  rw [add_of_slotIds_ne h]
  simp only [addSlots, remap, hleft, hright]
  rw [List.zipWith_map, List.zipWith_self]

end Affine

namespace Quadratic

/-- The linear coefficient of an id in the folded expression. -/
def foldedCoeff?
    (e : Quadratic α)
    (id : Nat) :
    Option α :=
  (e.folded.vars.position? id).bind fun slot => e.folded.linear[slot]?

/-- The matrix entry of an ordered pair of ids in the folded expression. -/
def foldedEntry?
    (e : Quadratic α)
    (x y : Nat) :
    Option α :=
  ((e.folded.vars.position? x).bind fun i => e.folded.quad.rows[i]?).bind fun row =>
    (e.folded.vars.position? y).bind fun j => row[j]?

theorem foldedCoeff?_eq_affinePart
    (e : Quadratic α)
    (id : Nat) :
    e.foldedCoeff? id = e.affinePart.foldedCoeff? id := by
  rfl

/-- The folded entry of a pair of ids is the sum over the places that hold it. -/
theorem foldedEntry?_eq
    (e : Quadratic α)
    (x y : Nat) :
    e.foldedEntry? x y
      =
    if x ∈ e.vars.slotIds ∧ y ∈ e.vars.slotIds then some (pairSum e.vars.slotIds e.quad.rows x y)
    else none := by
  have hrows : e.folded.quad.rows = e.vars.fold.1.slotIds.map fun i =>
      e.vars.fold.1.slotIds.map (pairSum e.vars.slotIds e.quad.rows i) :=
    Basis.rows_remapSquare_of_nodup (Basis.slotMap_fold e.vars) (Basis.nodup_fold e.vars) e.quad
  have hrow := Basis.bind_position?_map e.vars.fold.1
    (fun i => e.vars.fold.1.slotIds.map (pairSum e.vars.slotIds e.quad.rows i)) x
  have hentry := Basis.bind_position?_map e.vars.fold.1 (pairSum e.vars.slotIds e.quad.rows x) y
  rw [← hrows] at hrow
  simp only [Basis.mem_slotIds_fold] at hrow hentry
  refine (congrArg (Option.bind · _) hrow).trans ?_
  by_cases hx : x ∈ e.vars.slotIds
  · rw [if_pos hx, Option.bind_some]
    refine hentry.trans ?_
    simp only [hx, true_and]
  · rw [if_neg hx, if_neg (fun h => hx h.1)]
    rfl

theorem rows_add_of_slotIds_ne
    {a b : Quadratic α}
    (h : a.vars.slotIds ≠ b.vars.slotIds) :
    (a.add b).quad.rows
      =
    (a.add b).vars.slotIds.map fun x => (a.add b).vars.slotIds.map fun y =>
      pairSum a.vars.slotIds a.quad.rows x y + pairSum b.vars.slotIds b.quad.rows x y := by
  have hnodup := Basis.nodup_union a.vars b.vars
  have hleft :=
    Basis.rows_remapSquare_of_nodup (Basis.slotMap_union_left a.vars b.vars) hnodup a.quad
  have hright :=
    Basis.rows_remapSquare_of_nodup (Basis.slotMap_union_right a.vars b.vars) hnodup b.quad
  rw [add_of_slotIds_ne h]
  simp only [addSlots, remap, DenseMatrix.add, hleft, hright]
  rw [List.zipWith_map, List.zipWith_self]
  simp only [List.zipWith_map, List.zipWith_self]

end Quadratic

end Reading

end MathProgram

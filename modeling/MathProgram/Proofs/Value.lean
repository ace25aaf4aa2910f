import MathProgram.Expression.Scalar
import MathProgram.Proofs.Alignment
import MathProgram.Proofs.SlotMap
import MathProgram.Proofs.WeightedSum

/-!
# Values of scalar expressions

An assignment gives a number to every id.  The value of an expression at an
assignment is what the expression stands for: every slot counts with its
coefficient times the number of its id, and every ordered pair of slots with
its matrix entry times both numbers.  Slots that repeat an id count once each.

**Results.**
* `Affine.value_remap`, `Quadratic.value_remap`: moving an expression along a
  slot map keeps its value.
* `Affine.value_add`, `Quadratic.value_add`: the value of a sum, whether the
  bases are aligned first or not.
* `Affine.value_scale`, `Quadratic.value_scale`: the value of a multiple.
-/

namespace MathProgram

section Assignment

variable {α : Type}

/-- A number for every id. -/
abbrev Assignment (α : Type) :=
  Nat → α

/-- The numbers of the variables of a basis, slot by slot. -/
def Basis.weights
    (basis : Basis)
    (x : Assignment α) :
    List α :=
  basis.map fun v => x v.id

@[simp] theorem Basis.length_weights
    (basis : Basis)
    (x : Assignment α) :
    (basis.weights x).length = basis.length := by
  simp [Basis.weights]

theorem Basis.weights_eq_map
    (basis : Basis)
    (x : Assignment α) :
    basis.weights x = basis.slotIds.map x := by
  rw [weights, slotIds, List.map_map]
  rfl

/-- Slot lists with the same ids have the same numbers. -/
theorem Basis.weights_congr
    {a b : Basis}
    (h : a.slotIds = b.slotIds)
    (x : Assignment α) :
    a.weights x = b.weights x := by
  rw [weights_eq_map, weights_eq_map, h]

/-- Along a slot map every old slot keeps its number. -/
theorem Basis.slotWeights_of_slotMap
    [CommRing α]
    {source target : Basis}
    {slots : List Nat}
    (h : source.slotMap target = .ok slots)
    (x : Assignment α) :
    slotWeights slots (target.weights x) = source.weights x := by
  have hids := congrArg (List.map fun id? => (id?.map x).getD 0)
    (Basis.getElem?_slotIds_of_slotMap h)
  simpa [slotWeights, Basis.weights, Basis.slotIds, List.getD_eq_getElem?_getD,
    Function.comp_def] using hids

/-- A slot map stays inside the numbers of the new basis. -/
theorem Basis.lt_length_weights_of_slotMap
    {source target : Basis}
    {slots : List Nat}
    (h : source.slotMap target = .ok slots)
    (x : Assignment α) :
    ∀ slot ∈ slots, slot < (target.weights x).length := by
  intro slot hslot
  rw [Basis.length_weights]
  exact Basis.lt_of_mem_slotMap h hslot

end Assignment

namespace Affine

section Value

variable {α : Type} [CommRing α]

/-- The coefficients times the numbers of their variables, plus the constant. -/
def value
    (e : Affine α)
    (x : Assignment α) :
    α :=
  (List.zipWith (fun c v => c * x v.id) e.coeffs e.vars).sum + e.constant

theorem value_eq_weigh
    (e : Affine α)
    (x : Assignment α) :
    e.value x = weigh e.coeffs (e.vars.weights x) + e.constant := by
  simp [value, weigh, Basis.weights, List.zipWith_map_right]

theorem value_remap
    {e : Affine α}
    {target : Basis}
    {slots : List Nat}
    (h : e.vars.slotMap target = .ok slots)
    (x : Assignment α) :
    (e.remap target slots).value x = e.value x := by
  have hmoved := weigh_remapVector (Basis.lt_length_weights_of_slotMap h x) e.coeffs
  rw [Basis.length_weights, Basis.slotWeights_of_slotMap h] at hmoved
  rw [value_eq_weigh, value_eq_weigh]
  exact congrArg (· + e.constant) hmoved

@[simp] theorem value_folded
    (e : Affine α)
    (x : Assignment α) :
    e.folded.value x = e.value x :=
  value_remap (Basis.slotMap_fold e.vars) x

theorem value_addSlots
    {a b : Affine α}
    (sameLength : a.vars.length = b.vars.length)
    {x : Assignment α}
    (h : a.vars.weights x = b.vars.weights x) :
    (a.addSlots b sameLength).value x = a.value x + b.value x := by
  have hlength : a.coeffs.length = b.coeffs.length := by
    rw [a.length_coeffs, b.length_coeffs, sameLength]
  have hsum := weigh_zipWith_add hlength (a.vars.weights x)
  simp only [value_eq_weigh, addSlots]
  rw [hsum, ← h]
  ring

/-- The value of a sum is the sum of the values. -/
theorem value_add
    (a b : Affine α)
    (x : Assignment α) :
    (a.add b).value x = a.value x + b.value x := by
  by_cases h : a.vars.slotIds = b.vars.slotIds
  · rw [add_of_slotIds_eq h]
    exact value_addSlots _ (Basis.weights_congr h x)
  · have hsame :
        (a.remap (a.vars.union b.vars).basis (a.vars.union b.vars).leftSlots).vars.weights x
          = (b.remap (a.vars.union b.vars).basis (a.vars.union b.vars).rightSlots).vars.weights x :=
      rfl
    rw [add_of_slotIds_ne h, value_addSlots _ hsame,
      value_remap (Basis.slotMap_union_left a.vars b.vars),
      value_remap (Basis.slotMap_union_right a.vars b.vars)]

theorem value_scale
    (e : Affine α)
    (factor : α)
    (x : Assignment α) :
    (e.scale factor).value x = factor * e.value x := by
  simp only [value_eq_weigh, scale, weigh_map_mul]
  ring

@[simp] theorem value_ofConstant
    (k : α)
    (x : Assignment α) :
    (ofConstant k).value x = k := by
  simp [value, ofConstant]

@[simp] theorem value_ofVariable
    (v : Variable)
    (x : Assignment α) :
    (ofVariable v).value x = x v.id := by
  simp [value, ofVariable]

end Value

end Affine

namespace Quadratic

section Value

variable {α : Type} [CommRing α]

/--
The matrix entries times the numbers of both their variables, plus the value of
the affine part.
-/
def value
    (e : Quadratic α)
    (x : Assignment α) :
    α :=
  (List.zipWith
      (fun row v => (List.zipWith (fun q w => q * x v.id * x w.id) row e.vars).sum)
      e.quad.rows e.vars).sum
    + e.affinePart.value x

/-- A row of products shares the number of the row's own variable. -/
theorem sum_row_products
    (row : List α)
    (vars : Basis)
    (w : α)
    (x : Assignment α) :
    (List.zipWith (fun q v => q * w * x v.id) row vars).sum = weigh row (vars.weights x) * w := by
  induction row generalizing vars with
  | nil =>
    simp
  | cons q row ih =>
    cases vars with
    | nil => simp [Basis.weights]
    | cons v vars =>
      have hrest := ih vars
      simp only [Basis.weights] at hrest
      simp only [Basis.weights, List.zipWith_cons_cons, List.sum_cons, List.map_cons, weigh_cons,
        hrest]
      ring

theorem value_eq_weigh
    (e : Quadratic α)
    (x : Assignment α) :
    e.value x
      =
    weigh (e.quad.rows.map fun row => weigh row (e.vars.weights x)) (e.vars.weights x)
      + e.affinePart.value x := by
  simp only [value, sum_row_products]
  rw [weigh, List.zipWith_map_left, Basis.weights, List.zipWith_map_right]

theorem value_remap
    {e : Quadratic α}
    {target : Basis}
    {slots : List Nat}
    (h : e.vars.slotMap target = .ok slots)
    (x : Assignment α) :
    (e.remap target slots).value x = e.value x := by
  have hmoved := weigh_remapSquare rfl (Basis.lt_length_weights_of_slotMap h x) e.quad
  rw [Basis.length_weights, Basis.slotWeights_of_slotMap h] at hmoved
  have haffine : (e.remap target slots).affinePart.value x = e.affinePart.value x :=
    Affine.value_remap (e := e.affinePart) h x
  rw [value_eq_weigh, value_eq_weigh, haffine]
  exact congrArg (· + e.affinePart.value x) hmoved

/-- The rows of a sum of two matrices of one shape weigh as much as both rows together. -/
theorem map_weigh_rows_add
    {a b : DenseMatrix α}
    (sameCols : a.cols = b.cols)
    (weights : List α) :
    (a.add b sameCols).rows.map (fun row => weigh row weights)
      =
    List.zipWith (· + ·)
      (a.rows.map fun row => weigh row weights) (b.rows.map fun row => weigh row weights) := by
  have hwidth : ∀ row ∈ b.rows, row.length = a.cols := by
    intro row hrow
    rw [b.width row hrow, sameCols]
  apply map_zipWith_of_width _ a.width hwidth
  intro row other hrow hother
  exact weigh_zipWith_add (hrow.trans hother.symm) weights

theorem value_addSlots
    {a b : Quadratic α}
    (sameLength : a.vars.length = b.vars.length)
    {x : Assignment α}
    (h : a.vars.weights x = b.vars.weights x) :
    (a.addSlots b sameLength).value x = a.value x + b.value x := by
  have haffine : (a.addSlots b sameLength).affinePart.value x
      = a.affinePart.value x + b.affinePart.value x :=
    Affine.value_addSlots (a := a.affinePart) (b := b.affinePart) sameLength h
  have hcols : a.quad.cols = b.quad.cols := by
    rw [a.quad_cols, b.quad_cols, sameLength]
  have hrows : (a.quad.rows.map fun row => weigh row (a.vars.weights x)).length
      = (b.quad.rows.map fun row => weigh row (a.vars.weights x)).length := by
    simp [a.quad_rows, b.quad_rows, sameLength]
  have hquad := weigh_zipWith_add hrows (a.vars.weights x)
  rw [← map_weigh_rows_add hcols] at hquad
  simp only [value_eq_weigh, haffine, ← h]
  simp only [addSlots]
  rw [hquad]
  ring

/-- The value of a sum is the sum of the values. -/
theorem value_add
    (a b : Quadratic α)
    (x : Assignment α) :
    (a.add b).value x = a.value x + b.value x := by
  by_cases h : a.vars.slotIds = b.vars.slotIds
  · rw [add_of_slotIds_eq h]
    exact value_addSlots _ (Basis.weights_congr h x)
  · have hsame :
        (a.remap (a.vars.union b.vars).basis (a.vars.union b.vars).leftSlots).vars.weights x
          = (b.remap (a.vars.union b.vars).basis (a.vars.union b.vars).rightSlots).vars.weights x :=
      rfl
    rw [add_of_slotIds_ne h, value_addSlots _ hsame,
      value_remap (Basis.slotMap_union_left a.vars b.vars),
      value_remap (Basis.slotMap_union_right a.vars b.vars)]

theorem value_scale
    (e : Quadratic α)
    (factor : α)
    (x : Assignment α) :
    (e.scale factor).value x = factor * e.value x := by
  have haffine : (e.scale factor).affinePart.value x = factor * e.affinePart.value x :=
    Affine.value_scale e.affinePart factor x
  have hrows : (e.scale factor).quad.rows.map (fun row => weigh row (e.vars.weights x))
      = (e.quad.rows.map fun row => weigh row (e.vars.weights x)).map (· * factor) := by
    simp [scale, DenseMatrix.scale, DenseMatrix.map, weigh_map_mul]
  rw [value_eq_weigh, value_eq_weigh, haffine]
  have hquad := weigh_map_mul
    (e.quad.rows.map fun row => weigh row (e.vars.weights x)) factor (e.vars.weights x)
  rw [← hrows] at hquad
  simp only [scale] at hquad ⊢
  rw [hquad]
  ring

@[simp] theorem value_ofAffine
    (e : Affine α)
    (x : Assignment α) :
    (ofAffine e).value x = e.value x := by
  have hrow (n : Nat) : ((List.range n).map fun _ => (0 : α)) = List.replicate n 0 := by
    simp
  rw [value_eq_weigh]
  simp [ofAffine, DenseMatrix.zeros, DenseMatrix.ofFn, affinePart, hrow]

end Value

end Quadratic

end MathProgram

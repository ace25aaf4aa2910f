import MathProgram.Proofs.ExpressionSum
import MathProgram.Proofs.Folded

/-!
# The ids of results

No operation loses an id or invents one.  The ids of a sum are those of the left
operand, followed by those that only the right one has; coefficients have no part
in this, so that an id stays even where its terms cancel.

**Results.**
* `Basis.ids_merge`: the ids of the basis of a sum.
* `Expression.ids_of_add`: the ids of a sum, whatever kinds and shapes are added.
* `Expression.ids_scale`, `Affine.ids_folded` and others: operations that keep the ids.
* `ScalarConstraint.ids_of_linearRow`: the ids of a row.
-/

namespace MathProgram

namespace Basis

section Ids

theorem ids_of_nodup
    {basis : Basis}
    (h : basis.slotIds.Nodup) :
    basis.ids = basis.slotIds := by
  rw [← slotIds_unique, unique_of_nodup h]

theorem ids_unique
    (basis : Basis) :
    basis.unique.ids = basis.ids := by
  rw [ids_of_nodup (nodup_unique basis), slotIds_unique]

theorem slotIds_lacking
    (basis known : Basis) :
    (basis.lacking known).slotIds = basis.slotIds.filter fun id => !known.contains id := by
  rw [lacking, slotIds, slotIds, List.filter_map]
  rfl

/-- The ids of one basis, followed by those that only the other one has. -/
theorem ids_append
    (a b : Basis) :
    ids (a ++ b) = a.ids ++ b.ids.filter fun id => id ∉ a.ids := by
  have hknown (id : Nat) : (!a.contains id) = decide (id ∉ a.ids) := by
    rw [Bool.eq_iff_iff, Bool.not_eq_true', ← Bool.not_eq_true, contains_iff, decide_eq_true_iff,
      mem_ids_iff]
  rw [← slotIds_unique, unique_append, slotIds_append, slotIds_lacking, slotIds_unique,
    slotIds_unique]
  simp only [hknown]

theorem ids_merge
    (a b : Basis) :
    (a.merge b).ids = a.ids ++ b.ids.filter fun id => id ∉ a.ids := by
  by_cases h : a.slotIds = b.slotIds
  · have hids : a.ids = b.ids := congrArg List.eraseDups h
    rw [merge_of_slotIds_eq h, ← hids]
    simp
  · rw [merge_of_slotIds_ne h, ids_unique, ids_append]

end Ids

end Basis

section Kept

variable {α : Type}

theorem ScalarExpr.ids_eq_ids_vars
    (a : ScalarExpr α) :
    a.ids = a.vars.ids := by
  cases a <;> rfl

theorem Expression.ids_eq_ids_vars
    (e : Expression α) :
    e.ids = e.vars.ids := by
  rcases e with (k | v | e | e) | (ks | slots | e) <;> rfl

theorem Affine.ids_folded
    [Zero α]
    [Add α]
    (e : Affine α) :
    e.folded.ids = e.ids := by
  have hfolded : e.folded.vars = e.vars.unique :=
    Basis.fst_fold e.vars
  rw [ids, hfolded, Basis.ids_unique]
  rfl

theorem Quadratic.ids_folded
    [Zero α]
    [Add α]
    (e : Quadratic α) :
    e.folded.ids = e.ids := by
  exact e.affinePart.ids_folded

theorem Quadratic.ids_affinePart
    (e : Quadratic α) :
    e.affinePart.ids = e.ids := by
  rfl

/-- Every component of a vector of variables or of an affine vector has ids of the vector only. -/
theorem VectorExpr.mem_ids_of_component
    {e : VectorExpr α}
    {i : Nat}
    {s : ScalarExpr α}
    (h : e.component i = .ok s)
    {id : Nat}
    (hid : id ∈ s.ids) :
    id ∈ e.ids := by
  rcases component_cases h with
    ⟨_, _, rfl, _, rfl⟩ | ⟨slots, v, rfl, hv, rfl⟩ | ⟨a, t, rfl, ht, rfl⟩
  · cases hid
  · obtain rfl := List.mem_singleton.mp hid
    exact Basis.mem_ids_iff.mpr (List.mem_map_of_mem (List.mem_of_getElem? hv))
  · obtain ⟨hvars, -, -⟩ := AffineVector.component_eq_ok_iff.mp ht
    have hsame : (ScalarExpr.affine t).ids = (affine a).ids := congrArg Basis.ids hvars
    rwa [hsame] at hid

variable [Zero α] [One α]

theorem ScalarExpr.vars_toAffine?
    {a : ScalarExpr α}
    {e : Affine α}
    (h : a.toAffine? = some e) :
    e.vars = a.vars := by
  cases a with
  | quadratic f => cases h
  | _ =>
    cases h
    rfl

theorem ScalarExpr.vars_toQuadratic
    (a : ScalarExpr α) :
    a.toQuadratic.vars = a.vars := by
  cases a <;> rfl

theorem VectorExpr.vars_toAffine
    (e : VectorExpr α) :
    e.toAffine.vars = e.basis := by
  cases e <;> rfl

theorem ScalarExpr.vars_scale
    [Mul α]
    (a : ScalarExpr α)
    (factor : α) :
    (a.scale factor).vars = a.vars := by
  cases a <;> rfl

theorem Expression.ids_scale
    [Mul α]
    (e : Expression α)
    (factor : α) :
    (e.scale factor).ids = e.ids := by
  rcases e with (k | v | e | e) | (ks | slots | e) <;> rfl

end Kept

section Sums

variable {α : Type} [Zero α] [One α] [Add α]

/-- On every route a sum has the merged basis of its operands. -/
theorem ScalarExpr.vars_add
    (a b : ScalarExpr α) :
    (a.add b).vars = a.vars.merge b.vars := by
  rcases add_routes a b with ⟨j, k, rfl, rfl, hadd⟩ | ⟨e, f, he, hf, _, hadd⟩ | ⟨_, hadd⟩
  · rfl
  · rw [hadd, ← vars_toAffine? he, ← vars_toAffine? hf]
    exact e.vars_add f
  · rw [hadd, ← vars_toQuadratic a, ← vars_toQuadratic b]
    exact a.toQuadratic.vars_add b.toQuadratic

theorem VectorExpr.basis_sum
    (a b : VectorExpr α) :
    (a.sum b).basis = a.basis.merge b.basis := by
  rcases sum_cases a b with ⟨x, y, rfl, rfl, _⟩ | ⟨_, hsum⟩
  · rfl
  · rw [hsum, ← vars_toAffine a, ← vars_toAffine b]
    exact a.toAffine.vars_add b.toAffine

theorem VectorExpr.basis_shift
    (e : VectorExpr α)
    (k : α) :
    (e.shift k).basis = e.basis := by
  cases e <;> rfl

/-- The ids of a sum are those of the left operand and those that only the right one has. -/
theorem Expression.ids_of_add
    {a b s : Expression α}
    (h : a.add b = .ok s) :
    s.ids = a.ids ++ b.ids.filter fun id => id ∉ a.ids := by
  rw [ids_eq_ids_vars, ids_eq_ids_vars, ids_eq_ids_vars]
  cases add_eq_ok_iff.mp h with
  | scalars a b =>
    exact (congrArg Basis.ids (a.vars_add b)).trans (Basis.ids_merge _ _)
  | @vectors a b hlength =>
    exact (congrArg Basis.ids (a.basis_sum b)).trans (Basis.ids_merge _ _)
  | constantRight a k =>
    have hnone : (scalar (.constant k) : Expression α).vars.ids = [] := rfl
    rw [hnone, List.filter_nil, List.append_nil]
    exact congrArg Basis.ids (a.basis_shift k)
  | constantLeft k b =>
    have hnone : (scalar (.constant k) : Expression α).vars.ids = [] := rfl
    have hshift : (vector (b.shift k)).vars.ids = (vector b).vars.ids :=
      congrArg Basis.ids (b.basis_shift k)
    rw [hnone, hshift]
    simp

/-- A row has the ids of the left side and those that only the right side has. -/
theorem ScalarConstraint.ids_of_linearRow
    [Mul α]
    [Neg α]
    {c : ScalarConstraint α}
    {row : LinearRow α}
    (h : c.linearRow = .ok row) :
    row.ids = c.lhs.ids ++ c.rhs.ids.filter fun id => id ∉ c.lhs.ids := by
  rcases c.linearRow_cases with ⟨e, _, hdifference, hrow⟩ | ⟨_, hrow⟩
  · cases hrow.symm.trans h
    have hvars : e.vars = c.lhs.vars.merge c.rhs.vars := by
      rw [ScalarExpr.vars_toAffine? hdifference, ScalarExpr.sub, ScalarExpr.vars_add,
        ScalarExpr.vars_scale]
    rw [ScalarExpr.ids_eq_ids_vars, ScalarExpr.ids_eq_ids_vars, ← Basis.ids_merge, ← hvars]
    rfl
  · cases hrow.symm.trans h

end Sums

end MathProgram

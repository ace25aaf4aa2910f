import MathProgram.Proofs.ExpressionSum
import MathProgram.Proofs.Folded
import MathProgram.Proofs.KindMaps

/-!
# Exchanging the operands of a sum

Two sums with exchanged operands list their variables in different orders, and
their operands are moved along different slots.  Read id by id they are the same:
the folded coefficient of an id, and the folded entry of a pair of ids, is the
sum of what either operand has under it.

**Laws.**  Nothing but commutativity is used of the addition of coefficients.
Entries that meet under one id are added in slot order on both sides, so that no
sum has to be regrouped.

**Main statement.**  `Expression.sameById_of_add`.
-/

namespace MathProgram

section Exchange

variable {α : Type} [AddCommMagma α]

/-- Entries added place by place can be exchanged when their addition commutes. -/
theorem zipWith_add_comm
    (c d : List α) :
    List.zipWith (· + ·) c d = List.zipWith (· + ·) d c := by
  exact List.zipWith_comm_of_comm add_comm

theorem zipWith_rows_add_comm
    (r s : List (List α)) :
    List.zipWith (List.zipWith (· + ·)) r s = List.zipWith (List.zipWith (· + ·)) s r := by
  exact List.zipWith_comm_of_comm zipWith_add_comm

variable [Zero α]

theorem Basis.slotIds_merge_comm
    {a b : Basis}
    (h : a.slotIds = b.slotIds) :
    (a.merge b).slotIds = (b.merge a).slotIds := by
  rw [merge_of_slotIds_eq h, merge_of_slotIds_eq h.symm, h]

theorem Basis.mem_slotIds_merge_comm
    {a b : Basis}
    {id : Nat} :
    id ∈ (a.merge b).slotIds ↔ id ∈ (b.merge a).slotIds := by
  rw [mem_slotIds_merge, mem_slotIds_merge, or_comm]

namespace Affine

/-- Two expressions that agree when they are read id by id. -/
structure SameById
    (e f : Affine α) :
    Prop where
  mem_slotIds : ∀ id, id ∈ e.vars.slotIds ↔ id ∈ f.vars.slotIds
  foldedCoeff : ∀ id, e.foldedCoeff? id = f.foldedCoeff? id
  constant : e.constant = f.constant

theorem mem_slotIds_add_comm
    {a b : Affine α}
    {id : Nat} :
    id ∈ (a.add b).vars.slotIds ↔ id ∈ (b.add a).vars.slotIds := by
  rw [vars_add, vars_add]
  exact Basis.mem_slotIds_merge_comm

/-- Under one id both sums have the same coefficients in slot order, or one sum of two. -/
theorem slotSum_add_comm
    (a b : Affine α)
    {id : Nat}
    (hid : id ∈ (a.add b).vars.slotIds) :
    slotSum (a.add b).vars.slotIds (a.add b).coeffs id
      =
    slotSum (b.add a).vars.slotIds (b.add a).coeffs id := by
  by_cases h : a.vars.slotIds = b.vars.slotIds
  · have hids : (a.add b).vars.slotIds = (b.add a).vars.slotIds := by
      rw [vars_add, vars_add, Basis.slotIds_merge_comm h]
    have hcoeffs : (a.add b).coeffs = (b.add a).coeffs := by
      rw [add_of_slotIds_eq h, add_of_slotIds_eq h.symm]
      exact zipWith_add_comm a.coeffs b.coeffs
    rw [hids, hcoeffs]
  · have hnodup : (a.add b).vars.slotIds.Nodup := by
      rw [vars_add]
      exact Basis.nodup_merge h
    have hnodup' : (b.add a).vars.slotIds.Nodup := by
      rw [vars_add]
      exact Basis.nodup_merge (Ne.symm h)
    rw [coeffs_add_of_slotIds_ne h, coeffs_add_of_slotIds_ne (Ne.symm h),
      slotSum_map_of_nodup hnodup hid,
      slotSum_map_of_nodup hnodup' (mem_slotIds_add_comm.mp hid)]
    exact congrArg (0 + ·) (add_comm _ _)

theorem sameById_add
    (a b : Affine α) :
    (a.add b).SameById (b.add a) where
  mem_slotIds _ := mem_slotIds_add_comm
  foldedCoeff := by
    intro id
    rw [foldedCoeff?_eq, foldedCoeff?_eq]
    by_cases hid : id ∈ (a.add b).vars.slotIds
    · rw [if_pos hid, if_pos (mem_slotIds_add_comm.mp hid), slotSum_add_comm a b hid]
    · rw [if_neg hid, if_neg (mt mem_slotIds_add_comm.mpr hid)]
  constant := by
    by_cases h : a.vars.slotIds = b.vars.slotIds
    · rw [add_of_slotIds_eq h, add_of_slotIds_eq h.symm]
      exact add_comm a.constant b.constant
    · rw [add_of_slotIds_ne h, add_of_slotIds_ne (Ne.symm h)]
      exact add_comm a.constant b.constant

end Affine

namespace Quadratic

/-- Two expressions that agree when they are read id by id and pair by pair. -/
structure SameById
    (e f : Quadratic α) :
    Prop where
  affinePart : e.affinePart.SameById f.affinePart
  foldedEntry : ∀ x y, e.foldedEntry? x y = f.foldedEntry? x y

theorem mem_slotIds_add_comm
    {a b : Quadratic α}
    {id : Nat} :
    id ∈ (a.add b).vars.slotIds ↔ id ∈ (b.add a).vars.slotIds := by
  rw [vars_add, vars_add]
  exact Basis.mem_slotIds_merge_comm

/-- Under a pair of ids both sums have the same entries row by row, or one sum of two. -/
theorem pairSum_add_comm
    (a b : Quadratic α)
    {x y : Nat}
    (hx : x ∈ (a.add b).vars.slotIds)
    (hy : y ∈ (a.add b).vars.slotIds) :
    pairSum (a.add b).vars.slotIds (a.add b).quad.rows x y
      =
    pairSum (b.add a).vars.slotIds (b.add a).quad.rows x y := by
  by_cases h : a.vars.slotIds = b.vars.slotIds
  · have hids : (a.add b).vars.slotIds = (b.add a).vars.slotIds := by
      rw [vars_add, vars_add, Basis.slotIds_merge_comm h]
    have hrows : (a.add b).quad.rows = (b.add a).quad.rows := by
      rw [add_of_slotIds_eq h, add_of_slotIds_eq h.symm]
      exact zipWith_rows_add_comm a.quad.rows b.quad.rows
    rw [hids, hrows]
  · have hnodup : (a.add b).vars.slotIds.Nodup := by
      rw [vars_add]
      exact Basis.nodup_merge h
    have hnodup' : (b.add a).vars.slotIds.Nodup := by
      rw [vars_add]
      exact Basis.nodup_merge (Ne.symm h)
    rw [rows_add_of_slotIds_ne h, rows_add_of_slotIds_ne (Ne.symm h),
      pairSum_map_of_nodup hnodup hx hy,
      pairSum_map_of_nodup hnodup' (mem_slotIds_add_comm.mp hx) (mem_slotIds_add_comm.mp hy)]
    exact congrArg (0 + ·) (add_comm _ _)

theorem sameById_add
    (a b : Quadratic α) :
    (a.add b).SameById (b.add a) where
  affinePart := by
    rw [affinePart_add, affinePart_add]
    exact Affine.sameById_add a.affinePart b.affinePart
  foldedEntry := by
    intro x y
    have hmem : x ∈ (a.add b).vars.slotIds ∧ y ∈ (a.add b).vars.slotIds
        ↔ x ∈ (b.add a).vars.slotIds ∧ y ∈ (b.add a).vars.slotIds :=
      and_congr mem_slotIds_add_comm mem_slotIds_add_comm
    rw [foldedEntry?_eq, foldedEntry?_eq]
    by_cases h : x ∈ (a.add b).vars.slotIds ∧ y ∈ (a.add b).vars.slotIds
    · rw [if_pos h, if_pos (hmem.mp h), pairSum_add_comm a b h.1 h.2]
    · rw [if_neg h, if_neg (mt hmem.mpr h)]

end Quadratic

namespace ScalarExpr

variable [One α]

/-- The linear coefficient of an id once the expression is folded. -/
def foldedCoeff?
    (e : ScalarExpr α)
    (id : Nat) :
    Option α :=
  match e with
  | constant _ => none
  | var v => if id = v.id then some 1 else none
  | affine e => e.foldedCoeff? id
  | quadratic e => e.foldedCoeff? id

/-- The matrix entry of an ordered pair of ids once the expression is folded. -/
def foldedEntry?
    (e : ScalarExpr α)
    (x y : Nat) :
    Option α :=
  match e with
  | quadratic e => e.foldedEntry? x y
  | _ => none

/-- Two expressions of one kind that agree when they are read id by id. -/
structure SameById
    (s t : ScalarExpr α) :
    Prop where
  kind : s.kind = t.kind
  degree : s.degree = t.degree
  mem_ids : ∀ id, id ∈ s.ids ↔ id ∈ t.ids
  foldedCoeff : ∀ id, s.foldedCoeff? id = t.foldedCoeff? id
  foldedEntry : ∀ x y, s.foldedEntry? x y = t.foldedEntry? x y
  constantTerm : s.constantTerm = t.constantTerm

theorem SameById.refl
    (s : ScalarExpr α) :
    s.SameById s :=
  ⟨rfl, rfl, fun _ => Iff.rfl, fun _ => rfl, fun _ _ => rfl, rfl⟩

theorem sameById_affine
    {e f : Affine α}
    (h : e.SameById f) :
    (affine e).SameById (affine f) where
  kind := rfl
  degree := rfl
  mem_ids := by
    intro id
    exact (Basis.mem_ids_iff.trans (h.mem_slotIds id)).trans Basis.mem_ids_iff.symm
  foldedCoeff := h.foldedCoeff
  foldedEntry _ _ := rfl
  constantTerm := h.constant

theorem sameById_quadratic
    {e f : Quadratic α}
    (h : e.SameById f) :
    (quadratic e).SameById (quadratic f) where
  kind := rfl
  degree := rfl
  mem_ids := by
    intro id
    exact (Basis.mem_ids_iff.trans (h.affinePart.mem_slotIds id)).trans Basis.mem_ids_iff.symm
  foldedCoeff := by
    intro id
    have hlinear := h.affinePart.foldedCoeff id
    rwa [← Quadratic.foldedCoeff?_eq_affinePart, ← Quadratic.foldedCoeff?_eq_affinePart] at hlinear
  foldedEntry := h.foldedEntry
  constantTerm := h.affinePart.constant

/-- The route of a sum does not depend on the order of its operands. -/
theorem sameById_add
    (a b : ScalarExpr α) :
    (a.add b).SameById (b.add a) := by
  rcases add_routes a b with
    ⟨j, k, rfl, rfl, hadd⟩ | ⟨e, f, he, hf, hdegree, hadd⟩ | ⟨hdegree, hadd⟩
  · rw [hadd, add_comm j k]
    exact .refl _
  · rw [hadd, add_of_toAffine? hf he (by rw [max_comm, hdegree])]
    exact sameById_affine (Affine.sameById_add e f)
  · rw [hadd, add_of_degree_eq_two (by rw [max_comm, hdegree])]
    exact sameById_quadratic (Quadratic.sameById_add a.toQuadratic b.toQuadratic)

end ScalarExpr

theorem AffineVector.mem_ids_add_comm
    {a b : AffineVector α}
    {id : Nat} :
    id ∈ ((slotted α).add a b).ids ↔ id ∈ ((slotted α).add b a).ids := by
  rw [ids, ids, vars_add, vars_add, Basis.mem_ids_iff, Basis.mem_ids_iff]
  exact Basis.mem_slotIds_merge_comm

namespace VectorExpr

variable [One α]

/-- Two vectors of one kind and length whose components agree when they are read id by id. -/
structure SameById
    (u w : VectorExpr α) :
    Prop where
  kind : u.kind = w.kind
  length : u.length = w.length
  mem_ids : ∀ id, id ∈ u.ids ↔ id ∈ w.ids
  component : ∀ i < u.length,
    ∃ s t, u.component i = .ok s ∧ w.component i = .ok t ∧ s.SameById t

theorem SameById.refl
    (u : VectorExpr α) :
    u.SameById u where
  kind := rfl
  length := rfl
  mem_ids _ := Iff.rfl
  component := by
    intro i hi
    obtain ⟨s, hs⟩ := exists_component_iff.mpr hi
    exact ⟨s, s, hs, hs, .refl s⟩

/-- Vectors are added row by row, and the rows can be exchanged. -/
theorem sameById_sum
    {a b : VectorExpr α}
    (h : a.length = b.length) :
    (a.sum b).SameById (b.sum a) := by
  rcases sum_cases a b with ⟨x, y, rfl, rfl, hsum⟩ | ⟨hkinds, hsum⟩
  · rw [hsum, zipWith_add_comm x y]
    exact .refl _
  · have haffine : a.toAffine.length = b.toAffine.length := by
      rw [length_toAffine, length_toAffine, h]
    rw [hsum, sum_of_kind (mt And.symm hkinds)]
    refine ⟨rfl, ?_, ?_, ?_⟩
    · exact (AffineVector.length_add haffine).trans
        (haffine.trans (AffineVector.length_add haffine.symm).symm)
    · intro id
      exact AffineVector.mem_ids_add_comm
    · intro i hi
      have hia : i < a.toAffine.length := by
        rw [← AffineVector.length_add haffine]
        exact hi
      obtain ⟨s, hs⟩ := AffineVector.exists_component hia
      obtain ⟨t, ht⟩ := AffineVector.exists_component (haffine ▸ hia)
      refine ⟨.affine (s.add t), .affine (t.add s), ?_, ?_, ?_⟩
      · exact congrArg (Except.map ScalarExpr.affine) (AffineVector.component_add hs ht)
      · exact congrArg (Except.map ScalarExpr.affine) (AffineVector.component_add ht hs)
      · exact ScalarExpr.sameById_affine (Affine.sameById_add s t)

end VectorExpr

namespace Expression

variable [One α]

/-- Two expressions of one shape that agree when they are read id by id. -/
inductive SameById : Expression α → Expression α → Prop
  | scalar
      {s t : ScalarExpr α}
      (h : s.SameById t) :
      SameById (scalar s) (scalar t)
  | vector
      {u w : VectorExpr α}
      (h : u.SameById w) :
      SameById (vector u) (vector w)

theorem IsSum.exchange
    {a b s : Expression α}
    (h : IsSum a b s) :
    ∃ t, IsSum b a t ∧ SameById s t := by
  cases h with
  | scalars a b => exact ⟨_, .scalars b a, .scalar (ScalarExpr.sameById_add a b)⟩
  | vectors hlength => exact ⟨_, .vectors hlength.symm, .vector (VectorExpr.sameById_sum hlength)⟩
  | constantRight a k => exact ⟨_, .constantLeft k a, .vector (.refl _)⟩
  | constantLeft k b => exact ⟨_, .constantRight b k, .vector (.refl _)⟩

/--
The operands of a sum can be exchanged.  Both sums are defined or neither is, and
they have the same shape, kind, degree, length and ids, and read id by id the
same coefficients, matrix entries and constants.
-/
theorem sameById_of_add
    (a b : Expression α) :
    ((∃ s, a.add b = .ok s) ↔ ∃ t, b.add a = .ok t)
      ∧
    ∀ s t, a.add b = .ok s → b.add a = .ok t → SameById s t := by
  simp only [add_eq_ok_iff]
  refine ⟨?_, ?_⟩
  · constructor
    · rintro ⟨s, hs⟩
      obtain ⟨t, ht, _⟩ := hs.exchange
      exact ⟨t, ht⟩
    · rintro ⟨t, ht⟩
      obtain ⟨s, hs, _⟩ := ht.exchange
      exact ⟨s, hs⟩
  · intro s t hs ht
    obtain ⟨t', ht', hsame⟩ := hs.exchange
    rw [ht.unique ht']
    exact hsame

end Expression

end Exchange

end MathProgram

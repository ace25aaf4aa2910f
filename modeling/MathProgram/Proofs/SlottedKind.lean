import MathProgram.Proofs.Alignment
import MathProgram.Proofs.Moving

/-!
# Kinds of expressions over a basis

Affine expressions, quadratic ones and affine vectors are added by one
algorithm.  Operands over the same sequence of ids are added slot by slot; all
others are moved to the union of their bases first.  `SlottedKind` has the parts
that differ between the kinds, and `SlottedKind.add` is the addition of all three.

**Specification.**  Addition is specified in three steps: list the variables of
both operands without repeats, move both operands to that basis by looking their
slots up, and add them up entry by entry.  The algorithm does not look slots up,
but collects them while the union is assembled, and it does not move operands at
all when they list the same ids.

**Results.**
* `SlottedKind.isSum_add`: a sum over a union is what the specification says,
  whatever addition of coefficients does.
* `SlottedKind.Exact.reindex_add`: in exact arithmetic moving a sum to any basis
  is adding up the moved operands, whichever way they were added.
* `SlottedKind.Exact.add_assoc`: in exact arithmetic sums can be regrouped.
* `SlottedKind.Respects.add`, `SlottedKind.IsMap.map_add`: relations and maps between
  two kinds that keep what is moved and added slot by slot keep sums.
  `SlottedKind.IsMap.map_foldl_add` is the same for sums of many expressions.
* `SlottedKind.Respects.reindex`, `SlottedKind.IsMap.map_reindex`: the same for changes of
  basis, which succeed together and fail for one cause.
-/

namespace MathProgram

section Kinds

variable {E : Type}

/-- How the expressions of one kind are moved along slots and added up slot by slot. -/
structure SlottedKind (E : Type) where
  vars : E → Basis
  remap : E → Basis → List Nat → E
  reindex : E → Basis → Except ExprError E
  addSlots : (a b : E) → (vars a).length = (vars b).length → E
  EntrywiseSum : E → E → E → Prop
  reindex_eq : ∀ e target, reindex e target = ((vars e).slotMap target).map (remap e target)
  vars_remap : ∀ e target slots, vars (remap e target slots) = target
  vars_addSlots : ∀ a b h, vars (addSlots a b h) = vars a
  entrywiseSum_addSlots : ∀ a b (h : vars a = vars b),
    EntrywiseSum a b (addSlots a b (congrArg List.length h))

namespace SlottedKind

/-- Two expressions moved to one basis have as many slots. -/
theorem length_vars_remap
    (kind : SlottedKind E)
    (a b : E)
    (target : Basis)
    (left right : List Nat) :
    (kind.vars (kind.remap a target left)).length
      =
    (kind.vars (kind.remap b target right)).length := by
  rw [kind.vars_remap, kind.vars_remap]

/-- The sum of two expressions of one kind. -/
def add
    (kind : SlottedKind E)
    (a b : E) :
    E :=
  if h : (kind.vars a).slotIds = (kind.vars b).slotIds then
    kind.addSlots a b (by simpa using congrArg List.length h)
  else
    let union := (kind.vars a).union (kind.vars b)
    kind.addSlots (kind.remap a union.basis union.leftSlots)
      (kind.remap b union.basis union.rightSlots) (kind.length_vars_remap ..)

/-- Both operands can be moved to a basis, and `sum` is over it and has their entries added up. -/
def IsAlignedSum
    (kind : SlottedKind E)
    (a b : E)
    (target : Basis)
    (sum : E) :
    Prop :=
  kind.vars sum = target ∧
    ∃ x y, kind.reindex a target = .ok x ∧ kind.reindex b target = .ok y ∧
      kind.EntrywiseSum x y sum

/--
What addition gives: the aligned sum over the union, unless both operands list
the same ids.  Then the left basis stays, and only then can an id be repeated.
-/
structure IsSum
    (kind : SlottedKind E)
    (a b sum : E) :
    Prop where
  aligned :
    (kind.vars a).slotIds ≠ (kind.vars b).slotIds →
      kind.IsAlignedSum a b ((kind.vars a).union (kind.vars b)).basis sum
  vars_eq :
    (kind.vars a).slotIds = (kind.vars b).slotIds →
      kind.vars sum = kind.vars a
  repeats_iff :
    ¬ (kind.vars sum).slotIds.Nodup
      ↔
    (kind.vars a).slotIds = (kind.vars b).slotIds ∧ ¬ (kind.vars a).slotIds.Nodup

/-- The sum can be moved to the union of the operands' bases, where it is their aligned sum. -/
def Realigns
    (kind : SlottedKind E)
    (a b sum : E) :
    Prop :=
  ∃ moved, kind.reindex sum ((kind.vars a).union (kind.vars b)).basis = .ok moved ∧
    kind.IsAlignedSum a b ((kind.vars a).union (kind.vars b)).basis moved

variable (kind : SlottedKind E) {a b : E}

theorem add_of_slotIds_eq
    (h : (kind.vars a).slotIds = (kind.vars b).slotIds) :
    kind.add a b = kind.addSlots a b (by simpa using congrArg List.length h) :=
  dif_pos h

theorem add_of_slotIds_ne
    (h : (kind.vars a).slotIds ≠ (kind.vars b).slotIds) :
    kind.add a b
      =
    kind.addSlots
      (kind.remap a ((kind.vars a).union (kind.vars b)).basis
        ((kind.vars a).union (kind.vars b)).leftSlots)
      (kind.remap b ((kind.vars a).union (kind.vars b)).basis
        ((kind.vars a).union (kind.vars b)).rightSlots)
      (kind.length_vars_remap ..) :=
  dif_neg h

theorem reindex_eq_ok_iff
    {e x : E}
    {target : Basis} :
    kind.reindex e target = .ok x
      ↔
    ∃ slots, (kind.vars e).slotMap target = .ok slots ∧ kind.remap e target slots = x := by
  rw [kind.reindex_eq]
  exact map_eq_ok_iff

theorem vars_of_reindex
    {e x : E}
    {target : Basis}
    (h : kind.reindex e target = .ok x) :
    kind.vars x = target := by
  obtain ⟨slots, _, rfl⟩ := kind.reindex_eq_ok_iff.mp h
  exact kind.vars_remap e target slots

theorem exists_reindex
    {e : E}
    {target : Basis}
    (h : ∀ id ∈ (kind.vars e).slotIds, id ∈ target.slotIds) :
    ∃ x, kind.reindex e target = .ok x := by
  obtain ⟨slots, hslots⟩ := Basis.exists_slotMap_iff.mpr h
  exact ⟨_, kind.reindex_eq_ok_iff.mpr ⟨slots, hslots, rfl⟩⟩

/-- Two expressions that were moved to one basis have as many slots. -/
theorem length_of_reindex
    {x y : E}
    {target : Basis}
    (hx : kind.reindex a target = .ok x)
    (hy : kind.reindex b target = .ok y) :
    (kind.vars x).length = (kind.vars y).length := by
  rw [kind.vars_of_reindex hx, kind.vars_of_reindex hy]

theorem vars_add :
    kind.vars (kind.add a b) = (kind.vars a).merge (kind.vars b) := by
  by_cases h : (kind.vars a).slotIds = (kind.vars b).slotIds
  · rw [kind.add_of_slotIds_eq h, kind.vars_addSlots, Basis.merge_of_slotIds_eq h]
  · rw [kind.add_of_slotIds_ne h, kind.vars_addSlots, kind.vars_remap, Basis.merge, if_neg h]

/-- Operands that were moved to one basis are added up entry by entry over it. -/
theorem isAlignedSum_addSlots
    {x y : E}
    {target : Basis}
    (hx : kind.reindex a target = .ok x)
    (hy : kind.reindex b target = .ok y) :
    kind.IsAlignedSum a b target (kind.addSlots x y (kind.length_of_reindex hx hy)) := by
  have hvars : kind.vars x = kind.vars y := by
    rw [kind.vars_of_reindex hx, kind.vars_of_reindex hy]
  refine ⟨?_, x, y, hx, hy, kind.entrywiseSum_addSlots x y hvars⟩
  rw [kind.vars_addSlots, kind.vars_of_reindex hx]

/-- The slots of the left operand that were collected on the way are those that are looked up. -/
theorem reindex_union_left
    (a b : E) :
    kind.reindex a ((kind.vars a).union (kind.vars b)).basis
      =
    .ok
      (kind.remap a ((kind.vars a).union (kind.vars b)).basis
        ((kind.vars a).union (kind.vars b)).leftSlots) := by
  exact kind.reindex_eq_ok_iff.mpr ⟨_, Basis.slotMap_union_left .., rfl⟩

/-- The slots of the right operand that were collected on the way are those that are looked up. -/
theorem reindex_union_right
    (a b : E) :
    kind.reindex b ((kind.vars a).union (kind.vars b)).basis
      =
    .ok
      (kind.remap b ((kind.vars a).union (kind.vars b)).basis
        ((kind.vars a).union (kind.vars b)).rightSlots) := by
  exact kind.reindex_eq_ok_iff.mpr ⟨_, Basis.slotMap_union_right .., rfl⟩

theorem isAlignedSum_add
    (h : (kind.vars a).slotIds ≠ (kind.vars b).slotIds) :
    kind.IsAlignedSum a b ((kind.vars a).union (kind.vars b)).basis (kind.add a b) := by
  rw [kind.add_of_slotIds_ne h]
  exact kind.isAlignedSum_addSlots (kind.reindex_union_left a b) (kind.reindex_union_right a b)

theorem isSum_add :
    kind.IsSum a b (kind.add a b) where
  aligned := kind.isAlignedSum_add
  vars_eq := by
    intro h
    rw [kind.vars_add, Basis.merge_of_slotIds_eq h]
  repeats_iff := by
    rw [kind.vars_add]
    exact Basis.not_nodup_merge_iff

/--
The laws of a kind in exact arithmetic: moving is additive, two moves are one, a
basis without repeats keeps what is moved to it, and sums can be regrouped.
-/
structure Exact
    (kind : SlottedKind E) :
    Prop where
  remap_addSlots : ∀ a b h target slots,
    kind.remap (kind.addSlots a b h) target slots
      =
    kind.addSlots (kind.remap a target slots) (kind.remap b target slots)
      (kind.length_vars_remap ..)
  remap_remap : ∀ e middle target slots next,
    (∀ slot ∈ slots, slot < next.length) → next.length = middle.length →
      kind.remap (kind.remap e middle slots) target next
        =
      kind.remap e target (thenSlots slots next)
  remap_self : ∀ e slots,
    (kind.vars e).slotIds.Nodup → (kind.vars e).slotMap (kind.vars e) = .ok slots →
      kind.remap e (kind.vars e) slots = e
  addSlots_assoc : ∀ a b c hab hbc habc habc',
    kind.addSlots (kind.addSlots a b hab) c habc = kind.addSlots a (kind.addSlots b c hbc) habc'

/-- Two moves along slot maps are the move along the slot map from the first basis to the last. -/
theorem Exact.remap_of_slotMap
    (hexact : kind.Exact)
    {e : E}
    {middle target : Basis}
    {slots next direct : List Nat}
    (hslots : (kind.vars e).slotMap middle = .ok slots)
    (hnext : middle.slotMap target = .ok next)
    (hdirect : (kind.vars e).slotMap target = .ok direct) :
    kind.remap (kind.remap e middle slots) target next = kind.remap e target direct := by
  have hinside : ∀ slot ∈ slots, slot < next.length := by
    intro slot hslot
    rw [Basis.length_of_slotMap hnext]
    exact Basis.lt_of_mem_slotMap hslots hslot
  have hthen : direct = thenSlots slots next :=
    Except.ok.inj (hdirect.symm.trans (Basis.slotMap_trans hslots hnext))
  rw [hexact.remap_remap _ _ _ _ _ hinside (Basis.length_of_slotMap hnext), hthen]

/-- Moving a sum is adding up the moved operands, whichever way they were added. -/
theorem Exact.reindex_add
    (hexact : kind.Exact)
    {x y : E}
    {target : Basis}
    (hx : kind.reindex a target = .ok x)
    (hy : kind.reindex b target = .ok y) :
    kind.reindex (kind.add a b) target
      =
    .ok (kind.addSlots x y (kind.length_of_reindex hx hy)) := by
  obtain ⟨left, hleft, rfl⟩ := kind.reindex_eq_ok_iff.mp hx
  obtain ⟨right, hright, rfl⟩ := kind.reindex_eq_ok_iff.mp hy
  rw [kind.reindex_eq_ok_iff]
  by_cases h : (kind.vars a).slotIds = (kind.vars b).slotIds
  · -- One slot map moves both operands and their sum, because it looks at ids alone.
    obtain rfl : left = right :=
      Except.ok.inj (hleft.symm.trans ((Basis.slotMap_congr h target).trans hright))
    refine ⟨left, ?_, ?_⟩
    · rw [kind.vars_add, Basis.merge_of_slotIds_eq h]
      exact hleft
    · rw [kind.add_of_slotIds_eq h, hexact.remap_addSlots]
  · have hids : ∀ id ∈ ((kind.vars a).union (kind.vars b)).basis.slotIds, id ∈ target.slotIds := by
      intro id hid
      rw [Basis.union_basis, Basis.mem_slotIds_unique, Basis.slotIds_append,
        List.mem_append] at hid
      rcases hid with hid | hid
      · exact Basis.exists_slotMap_iff.mp ⟨left, hleft⟩ id hid
      · exact Basis.exists_slotMap_iff.mp ⟨right, hright⟩ id hid
    obtain ⟨next, hnext⟩ := Basis.exists_slotMap_iff.mpr hids
    have hmovedLeft :=
      hexact.remap_of_slotMap kind (Basis.slotMap_union_left ..) hnext hleft
    have hmovedRight :=
      hexact.remap_of_slotMap kind (Basis.slotMap_union_right ..) hnext hright
    refine ⟨next, ?_, ?_⟩
    · rw [kind.vars_add, Basis.merge, if_neg h]
      exact hnext
    · rw [kind.add_of_slotIds_ne h, hexact.remap_addSlots]
      simp only [hmovedLeft, hmovedRight]

theorem Exact.realigns_add
    (hexact : kind.Exact)
    (a b : E) :
    kind.Realigns a b (kind.add a b) := by
  have hleft := kind.reindex_union_left a b
  have hright := kind.reindex_union_right a b
  exact ⟨_, hexact.reindex_add kind hleft hright, kind.isAlignedSum_addSlots hleft hright⟩

/-- An expression over a basis without repeats is what moving it there gives. -/
theorem Exact.reindex_self
    (hexact : kind.Exact)
    {e : E}
    {basis : Basis}
    (hvars : kind.vars e = basis)
    (hnodup : basis.slotIds.Nodup) :
    kind.reindex e basis = .ok e := by
  subst hvars
  obtain ⟨slots, hslots⟩ := Basis.exists_slotMap_iff.mpr fun id hid => hid
  exact kind.reindex_eq_ok_iff.mpr ⟨slots, hslots, hexact.remap_self e slots hnodup hslots⟩

/--
Sums can be regrouped.  Operands over one sequence of ids are never moved; in all
other cases both groupings are what their three operands add up to once these
are moved to the basis of the result.
-/
theorem Exact.add_assoc
    (hexact : kind.Exact)
    (a b c : E) :
    kind.add (kind.add a b) c = kind.add a (kind.add b c) := by
  by_cases h : (kind.vars a).slotIds = (kind.vars b).slotIds ∧
      (kind.vars b).slotIds = (kind.vars c).slotIds
  · obtain ⟨hab, hbc⟩ := h
    have hleft : (kind.vars (kind.add a b)).slotIds = (kind.vars c).slotIds := by
      rw [kind.vars_add, Basis.merge_of_slotIds_eq hab, hab, hbc]
    have hright : (kind.vars a).slotIds = (kind.vars (kind.add b c)).slotIds := by
      rw [kind.vars_add, Basis.merge_of_slotIds_eq hbc, hab]
    rw [kind.add_of_slotIds_eq hleft, kind.add_of_slotIds_eq hright]
    simp only [kind.add_of_slotIds_eq hab, kind.add_of_slotIds_eq hbc]
    exact hexact.addSlots_assoc a b c _ _ _ _
  · have hvarsLeft : kind.vars (kind.add (kind.add a b) c)
        = ((kind.vars a).merge (kind.vars b)).merge (kind.vars c) := by
      rw [kind.vars_add, kind.vars_add]
    have hvarsRight : kind.vars (kind.add a (kind.add b c))
        = ((kind.vars a).merge (kind.vars b)).merge (kind.vars c) := by
      rw [kind.vars_add, kind.vars_add, Basis.merge_assoc]
    have hids (id : Nat) : id ∈ (((kind.vars a).merge (kind.vars b)).merge (kind.vars c)).slotIds
        ↔ (id ∈ (kind.vars a).slotIds ∨ id ∈ (kind.vars b).slotIds)
            ∨ id ∈ (kind.vars c).slotIds := by
      rw [Basis.mem_slotIds_merge, Basis.mem_slotIds_merge]
    have hnodup := Basis.nodup_merge_merge h
    obtain ⟨x, hx⟩ := kind.exists_reindex fun id hid => (hids id).mpr (.inl (.inl hid))
    obtain ⟨y, hy⟩ := kind.exists_reindex fun id hid => (hids id).mpr (.inl (.inr hid))
    obtain ⟨z, hz⟩ := kind.exists_reindex fun id hid => (hids id).mpr (.inr hid)
    have hleft := hexact.reindex_add kind (hexact.reindex_add kind hx hy) hz
    have hright := hexact.reindex_add kind hx (hexact.reindex_add kind hy hz)
    rw [hexact.reindex_self kind hvarsLeft hnodup] at hleft
    rw [hexact.reindex_self kind hvarsRight hnodup] at hright
    rw [Except.ok.inj hleft, Except.ok.inj hright]
    exact hexact.addSlots_assoc x y z _ _ _ _

section Relations

variable {F : Type} {source : SlottedKind E} {target : SlottedKind F}

/-- A relation between two kinds that moving and adding slot by slot keep. -/
structure Respects
    (source : SlottedKind E)
    (target : SlottedKind F)
    (R : E → F → Prop) :
    Prop where
  vars_eq : ∀ {e f}, R e f → target.vars f = source.vars e
  remap : ∀ {e f} basis slots,
    R e f → R (source.remap e basis slots) (target.remap f basis slots)
  addSlots : ∀ {a b f g} h h',
    R a f → R b g → R (source.addSlots a b h) (target.addSlots f g h')

/-- What moving and adding slot by slot keep is kept by addition. -/
theorem Respects.add
    {R : E → F → Prop}
    (hR : source.Respects target R)
    {a b : E}
    {f g : F}
    (ha : R a f)
    (hb : R b g) :
    R (source.add a b) (target.add f g) := by
  have hf : target.vars f = source.vars a := hR.vars_eq ha
  have hg : target.vars g = source.vars b := hR.vars_eq hb
  by_cases h : (source.vars a).slotIds = (source.vars b).slotIds
  · have h' : (target.vars f).slotIds = (target.vars g).slotIds := by
      rw [hf, hg]
      exact h
    rw [source.add_of_slotIds_eq h, target.add_of_slotIds_eq h']
    exact hR.addSlots _ _ ha hb
  · have h' : (target.vars f).slotIds ≠ (target.vars g).slotIds := by
      rw [hf, hg]
      exact h
    rw [source.add_of_slotIds_ne h, target.add_of_slotIds_ne h']
    simp only [hf, hg]
    exact hR.addSlots _ _ (hR.remap _ _ ha) (hR.remap _ _ hb)

/-- Related expressions are moved to related ones, or both lack a slot for the same variable. -/
theorem Respects.reindex
    {R : E → F → Prop}
    (hR : source.Respects target R)
    {e : E}
    {f : F}
    (h : R e f)
    (basis : Basis) :
    (∃ x y, source.reindex e basis = .ok x ∧ target.reindex f basis = .ok y ∧ R x y) ∨
      ∃ cause, source.reindex e basis = .error cause ∧ target.reindex f basis = .error cause := by
  rw [source.reindex_eq, target.reindex_eq, hR.vars_eq h]
  cases (source.vars e).slotMap basis with
  | ok slots => exact .inl ⟨_, _, rfl, rfl, hR.remap basis slots h⟩
  | error cause => exact .inr ⟨cause, rfl, rfl⟩

/-- A map between two kinds that keeps the basis, what is moved and what is added slot by slot. -/
structure IsMap
    (source : SlottedKind E)
    (target : SlottedKind F)
    (f : E → F) :
    Prop where
  vars_map : ∀ e, target.vars (f e) = source.vars e
  map_remap : ∀ e basis slots, f (source.remap e basis slots) = target.remap (f e) basis slots
  map_addSlots : ∀ a b h h', f (source.addSlots a b h) = target.addSlots (f a) (f b) h'

theorem IsMap.respects
    {f : E → F}
    (hf : source.IsMap target f) :
    source.Respects target (fun e x => f e = x) where
  vars_eq := by
    rintro e _ rfl
    exact hf.vars_map e
  remap := by
    rintro e _ basis slots rfl
    exact hf.map_remap e basis slots
  addSlots := by
    rintro a b _ _ h h' rfl rfl
    exact hf.map_addSlots a b h h'

/-- A map between two kinds keeps sums. -/
theorem IsMap.map_add
    {f : E → F}
    (hf : source.IsMap target f)
    (a b : E) :
    f (source.add a b) = target.add (f a) (f b) := by
  exact hf.respects.add rfl rfl

/-- What is added one after another can be mapped before or after. -/
theorem IsMap.map_foldl_add
    {f : E → F}
    (hf : source.IsMap target f)
    (items : List E)
    (e : E) :
    f (items.foldl source.add e) = (items.map f).foldl target.add (f e) := by
  induction items generalizing e with
  | nil => rfl
  | cons item items ih =>
    rw [List.foldl_cons, ih, hf.map_add, List.map_cons, List.foldl_cons]

/-- A map between two kinds keeps changes of basis and their failures. -/
theorem IsMap.map_reindex
    {f : E → F}
    (hf : source.IsMap target f)
    (e : E)
    (basis : Basis) :
    (source.reindex e basis).map f = target.reindex (f e) basis := by
  rcases hf.respects.reindex (e := e) rfl basis with ⟨x, _, hx, hy, rfl⟩ | ⟨cause, hx, hy⟩
  · rw [hx, hy]
    rfl
  · rw [hx, hy]
    rfl

end Relations

end SlottedKind

end Kinds

end MathProgram

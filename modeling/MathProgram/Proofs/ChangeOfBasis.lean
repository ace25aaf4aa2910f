import MathProgram.Proofs.AlignedSum
import MathProgram.Proofs.Folded
import MathProgram.Proofs.SuccessiveMoves
import MathProgram.Proofs.VectorSum
import MathProgram.Proofs.VectorValue

/-!
# Changes of basis

An expression can be moved to every basis that has all of its ids, and to no
other: the first variable without a slot is reported.  What comes out is over the
new basis, slot for slot, and nothing arrives in a slot that repeats an id.

**Meaning.**  In exact arithmetic a moved expression has the values it had.

**Composition.**  It does not matter whether an expression is moved at once or by
way of a basis in between.  Folding is the move to the basis without repeats, so
that a second folding changes nothing.  Exact arithmetic is not needed for this,
only that zero changes no sum that was started from zero.

**One account of three kinds.**  `SlottedKind.ChangesBasis` says what a move does
for coefficients of every type, and `SlottedKind.Composes` what two moves do.  A kind
brings what it reads: its constants, its values, and when it has nothing but zeros
at a slot.

**Main statement.**  `reindex_changes_basis`.
-/

namespace MathProgram

namespace Basis

section Missing

theorem slotOf_of_not_mem
    {target : Basis}
    {v : Variable}
    (h : v.id ∉ target.slotIds) :
    target.slotOf v = .error (.missingVariable v.id) := by
  rw [slotOf, position?_eq_none_iff.mpr h]

theorem exists_slotOf_of_mem
    {target : Basis}
    {v : Variable}
    (h : v.id ∈ target.slotIds) :
    ∃ slot, target.slotOf v = .ok slot := by
  obtain ⟨slot, hslot⟩ := exists_position?_iff.mpr h
  exact ⟨slot, by rw [slotOf, hslot]⟩

theorem exists_slotOf_iff
    {target : Basis}
    {v : Variable} :
    (∃ slot, target.slotOf v = .ok slot) ↔ v.id ∈ target.slotIds := by
  constructor
  · rintro ⟨slot, hslot⟩
    by_contra h
    rw [slotOf_of_not_mem h] at hslot
    cases hslot
  · exact exists_slotOf_of_mem

/-- Without a slot map the first variable that has no slot is reported. -/
theorem slotMap_eq_error_iff
    {source target : Basis}
    {cause : ExprError} :
    source.slotMap target = .error cause
      ↔
    ∃ v, source.find? (fun v => v.id ∉ target.slotIds) = some v ∧
      cause = .missingVariable v.id := by
  rw [slotMap, mapM_eq_error_iff fun v => exists_slotOf_iff]
  apply exists_congr
  intro v
  apply and_congr_right
  intro hfound
  have hv : v.id ∉ target.slotIds := by
    simpa using List.find?_some hfound
  rw [slotOf_of_not_mem hv, Except.error.injEq, eq_comm]

end Missing

end Basis

namespace SlottedKind

section Moves

variable {E : Type} (kind : SlottedKind E)

/--
What a move does: it is defined exactly on a basis with all ids, keeps constants,
and leaves zeros where the new basis repeats an id.
-/
structure ChangesBasis
    {γ : Type}
    (constants : E → γ)
    (VanishesAt : E → Nat → Prop) :
    Prop where
  exists_iff : ∀ e target,
    (∃ x, kind.reindex e target = .ok x)
      ↔
    ∀ id ∈ (kind.vars e).slotIds, id ∈ target.slotIds
  error_iff : ∀ e target cause,
    kind.reindex e target = .error cause
      ↔
    ∃ v, (kind.vars e).find? (fun v => v.id ∉ target.slotIds) = some v ∧
      cause = .missingVariable v.id
  vars_eq : ∀ e target x, kind.reindex e target = .ok x → kind.vars x = target
  constants_eq : ∀ e target x, kind.reindex e target = .ok x → constants x = constants e
  vanishes : ∀ e target x, kind.reindex e target = .ok x →
    ∀ slot, target.Repeats slot → VanishesAt x slot

/-- By way of a basis in between an expression comes to where a single move brings it. -/
def Composes :
    Prop :=
  ∀ e middle target,
    (∀ id ∈ (kind.vars e).slotIds, id ∈ middle.slotIds) →
    (∀ id ∈ middle.slotIds, id ∈ target.slotIds) →
      ∃ x y, kind.reindex e middle = .ok x ∧ kind.reindex x target = .ok y ∧
        kind.reindex e target = .ok y

/-- A moved expression has the values it had. -/
def KeepsValues
    {α γ : Type}
    (values : E → Assignment α → γ) :
    Prop :=
  ∀ e target x, kind.reindex e target = .ok x → ∀ a, values x a = values e a

/-- An expression moved to its basis without repeats, along the slots collected on the way. -/
def folded
    (e : E) :
    E :=
  kind.remap e (kind.vars e).fold.1 (kind.vars e).fold.2

/-- Folding is moving to the basis without repeats. -/
theorem reindex_unique
    (e : E) :
    kind.reindex e (kind.vars e).unique = .ok (kind.folded e) := by
  rw [← Basis.fst_fold]
  exact kind.reindex_eq_ok_iff.mpr ⟨_, Basis.slotMap_fold _, rfl⟩

variable {kind}

theorem exists_reindex_iff
    {e : E}
    {target : Basis} :
    (∃ x, kind.reindex e target = .ok x)
      ↔
    ∀ id ∈ (kind.vars e).slotIds, id ∈ target.slotIds := by
  constructor
  · rintro ⟨x, hx⟩
    obtain ⟨slots, hslots, _⟩ := kind.reindex_eq_ok_iff.mp hx
    exact Basis.exists_slotMap_iff.mp ⟨slots, hslots⟩
  · exact kind.exists_reindex

theorem reindex_eq_error_iff
    {e : E}
    {target : Basis}
    {cause : ExprError} :
    kind.reindex e target = .error cause
      ↔
    ∃ v, (kind.vars e).find? (fun v => v.id ∉ target.slotIds) = some v ∧
      cause = .missingVariable v.id := by
  rw [kind.reindex_eq, map_eq_error_iff, Basis.slotMap_eq_error_iff]

/-- A kind changes its basis as soon as moves keep constants and leave zeros where nothing goes. -/
theorem changesBasis
    {γ : Type}
    {constants : E → γ}
    {VanishesAt : E → Nat → Prop}
    (hconstants : ∀ e target slots, constants (kind.remap e target slots) = constants e)
    (hvanishes : ∀ e target slots slot, slot ∉ slots →
      VanishesAt (kind.remap e target slots) slot) :
    kind.ChangesBasis constants VanishesAt where
  exists_iff _ _ := exists_reindex_iff
  error_iff _ _ _ := reindex_eq_error_iff
  vars_eq _ _ _ := kind.vars_of_reindex
  constants_eq := by
    intro e target x hx
    obtain ⟨slots, _, rfl⟩ := kind.reindex_eq_ok_iff.mp hx
    exact hconstants e target slots
  vanishes := by
    intro e target x hx slot hrepeats
    obtain ⟨slots, hslots, rfl⟩ := kind.reindex_eq_ok_iff.mp hx
    exact hvanishes e target slots slot (Basis.not_mem_slotMap_of_repeats hslots hrepeats)

/-- A kind composes as soon as moves along two slot maps are one. -/
theorem composes
    (hremap : ∀ e middle target slots next,
      (kind.vars e).slotMap middle = .ok slots → middle.slotMap target = .ok next →
        kind.remap (kind.remap e middle slots) target next
          =
        kind.remap e target (thenSlots slots next)) :
    kind.Composes := by
  intro e middle target hmiddle htarget
  obtain ⟨slots, hslots⟩ := Basis.exists_slotMap_iff.mpr hmiddle
  obtain ⟨next, hnext⟩ := Basis.exists_slotMap_iff.mpr htarget
  refine ⟨kind.remap e middle slots, kind.remap e target (thenSlots slots next), ?_, ?_, ?_⟩
  · exact kind.reindex_eq_ok_iff.mpr ⟨slots, hslots, rfl⟩
  · refine kind.reindex_eq_ok_iff.mpr ⟨next, ?_, hremap e middle target slots next hslots hnext⟩
    rw [kind.vars_remap]
    exact hnext
  · exact kind.reindex_eq_ok_iff.mpr ⟨_, Basis.slotMap_trans hslots hnext, rfl⟩

/-- A second folding moves an expression to the basis it was folded to, which is one move. -/
theorem Composes.folded_folded
    (hcomposes : kind.Composes)
    (e : E) :
    kind.folded (kind.folded e) = kind.folded e := by
  have hids (id : Nat) : id ∈ (kind.vars e).unique.slotIds ↔ id ∈ (kind.vars e).slotIds :=
    Basis.mem_slotIds_unique
  have hvars : (kind.vars (kind.folded e)).unique = (kind.vars e).unique := by
    rw [kind.vars_of_reindex (kind.reindex_unique e)]
    exact Basis.unique_of_nodup (Basis.nodup_unique _)
  obtain ⟨x, y, hx, hy, hboth⟩ := hcomposes e (kind.vars e).unique (kind.vars e).unique
    (fun id => (hids id).mpr) (fun _ hid => hid)
  have hfolded : x = kind.folded e :=
    Except.ok.inj (hx.symm.trans (kind.reindex_unique e))
  rw [hfolded, ← hvars] at hy
  have hagain : kind.folded (kind.folded e) = y :=
    Except.ok.inj ((kind.reindex_unique (kind.folded e)).symm.trans hy)
  rw [hagain]
  exact Except.ok.inj (hboth.symm.trans (kind.reindex_unique e))

/-- A kind keeps values as soon as moves along slot maps do. -/
theorem keepsValues
    {α γ : Type}
    {values : E → Assignment α → γ}
    (hvalues : ∀ e target slots, (kind.vars e).slotMap target = .ok slots →
      ∀ a, values (kind.remap e target slots) a = values e a) :
    kind.KeepsValues values := by
  intro e target x hx
  obtain ⟨slots, hslots, rfl⟩ := kind.reindex_eq_ok_iff.mp hx
  exact hvalues e target slots hslots

end Moves

end SlottedKind

namespace Affine

section Moves

variable {α : Type}

/-- The coefficient at a slot is zero. -/
def VanishesAt
    [Zero α]
    (e : Affine α)
    (slot : Nat) :
    Prop :=
  e.coeffs.getD slot 0 = 0

theorem changesBasis_slotted
    (α : Type)
    [Zero α]
    [Add α] :
    (slotted α).ChangesBasis constant VanishesAt :=
  SlottedKind.changesBasis (fun _ _ _ => rfl)
    fun e target _ _ h => getD_remapVector_of_not_mem h target.length e.coeffs

theorem composes_slotted
    [Zero α]
    [Add α]
    (hα : SumsAbsorbZero α) :
    (slotted α).Composes := by
  apply SlottedKind.composes
  intro e middle target slots next hslots hnext
  ext1
  · rfl
  · exact Basis.remapVector_of_slotMaps hα hslots hnext e.coeffs
  · rfl

theorem keepsValues_slotted
    (α : Type)
    [CommRing α] :
    (slotted α).KeepsValues value :=
  SlottedKind.keepsValues fun _ _ _ => value_remap

end Moves

end Affine

namespace Quadratic

section Moves

variable {α : Type}

/-- The linear coefficient at a slot is zero, and so are its row and its column. -/
def VanishesAt
    [Zero α]
    (e : Quadratic α)
    (slot : Nat) :
    Prop :=
  e.linear.getD slot 0 = 0 ∧ ∀ k, e.quad.entry slot k = 0 ∧ e.quad.entry k slot = 0

theorem changesBasis_slotted
    (α : Type)
    [Zero α]
    [Add α] :
    (slotted α).ChangesBasis constant VanishesAt :=
  SlottedKind.changesBasis (fun _ _ _ => rfl) fun e target _ _ h =>
    ⟨getD_remapVector_of_not_mem h target.length e.linear,
      entry_remapSquare_of_not_mem h target.length e.quad⟩

theorem composes_slotted
    [Zero α]
    [Add α]
    (hα : SumsAbsorbZero α) :
    (slotted α).Composes := by
  apply SlottedKind.composes
  intro e middle target slots next hslots hnext
  ext1
  · rfl
  · exact Basis.remapSquare_of_slotMaps hα hslots hnext e.quad
  · exact Basis.remapVector_of_slotMaps hα hslots hnext e.linear
  · rfl

theorem keepsValues_slotted
    (α : Type)
    [CommRing α] :
    (slotted α).KeepsValues value :=
  SlottedKind.keepsValues fun _ _ _ => value_remap

end Moves

end Quadratic

namespace AffineVector

section Moves

variable {α : Type}

/-- Every row has a zero at a slot. -/
def VanishesAt
    [Zero α]
    (e : AffineVector α)
    (slot : Nat) :
    Prop :=
  ∀ i, e.matrix.entry i slot = 0

theorem changesBasis_slotted
    (α : Type)
    [Zero α]
    [Add α] :
    (slotted α).ChangesBasis offset VanishesAt :=
  SlottedKind.changesBasis (fun _ _ _ => rfl)
    fun e target _ _ h => entry_remapColumns_of_not_mem h target.length e.matrix

/-- A moved vector has in every component the value it had. -/
theorem values_remap
    [CommRing α]
    {e : AffineVector α}
    {target : Basis}
    {slots : List Nat}
    (h : e.vars.slotMap target = .ok slots)
    (x : Assignment α) :
    (e.remap target slots).values x = e.values x := by
  apply List.ext_getElem?
  intro i
  by_cases hi : i < e.length
  · obtain ⟨s, hs⟩ := exists_component hi
    have hmoved : (e.remap target slots).component i = .ok (s.remap target slots) :=
      (respects_component i).remap target slots hs
    have hvars : s.vars = e.vars := (component_eq_ok_iff.mp hs).1
    rw [getElem?_values hs, getElem?_values hmoved, Affine.value_remap (hvars ▸ h)]
  · have hlength : (e.remap target slots).length = e.length := rfl
    rw [List.getElem?_eq_none (by rw [length_values]; omega),
      List.getElem?_eq_none (by rw [length_values]; omega)]

theorem composes_slotted
    [Zero α]
    [Add α]
    (hα : SumsAbsorbZero α) :
    (slotted α).Composes := by
  apply SlottedKind.composes
  intro e middle target slots next hslots hnext
  ext1
  · rfl
  · exact Basis.remapColumns_of_slotMaps hα hslots hnext e.matrix
  · rfl

theorem keepsValues_slotted
    (α : Type)
    [CommRing α] :
    (slotted α).KeepsValues values :=
  SlottedKind.keepsValues fun _ _ _ => values_remap

end Moves

end AffineVector

/--
Moves to another basis.  For every kind and coefficients of every type they are
defined exactly on a basis with all ids, report the first variable without a slot,
and keep constants; repeating slots hold zero.  Folding is the move to the basis
without repeats.  Where sums absorb zero, as in exact arithmetic, moves compose, and
folding again changes nothing.  In exact arithmetic they keep all values, also in
every row.
-/
theorem reindex_changes_basis :
    (∀ (α : Type) [Zero α] [Add α],
      ((Affine.slotted α).ChangesBasis Affine.constant Affine.VanishesAt ∧
        (Quadratic.slotted α).ChangesBasis Quadratic.constant Quadratic.VanishesAt ∧
        (AffineVector.slotted α).ChangesBasis AffineVector.offset AffineVector.VanishesAt) ∧
      (∀ e : Affine α, e.reindex e.vars.unique = .ok e.folded) ∧
      ∀ e : Quadratic α, e.reindex e.vars.unique = .ok e.folded)
      ∧
    (∀ (α : Type) [Zero α] [Add α], SumsAbsorbZero α →
      ((Affine.slotted α).Composes ∧ (Quadratic.slotted α).Composes ∧
        (AffineVector.slotted α).Composes) ∧
      (∀ e : Affine α, e.folded.folded = e.folded) ∧
      ∀ e : Quadratic α, e.folded.folded = e.folded)
      ∧
    ∀ (α : Type) [CommRing α],
      SumsAbsorbZero α ∧
        (Affine.slotted α).KeepsValues Affine.value ∧
        (Quadratic.slotted α).KeepsValues Quadratic.value ∧
        (AffineVector.slotted α).KeepsValues AffineVector.values := by
  refine ⟨?_, ?_, ?_⟩
  · intro α _ _
    refine ⟨⟨?_, ?_, ?_⟩, (Affine.slotted α).reindex_unique, (Quadratic.slotted α).reindex_unique⟩
    · exact Affine.changesBasis_slotted α
    · exact Quadratic.changesBasis_slotted α
    · exact AffineVector.changesBasis_slotted α
  · intro α _ _ hα
    have haffine := Affine.composes_slotted hα
    have hquadratic := Quadratic.composes_slotted hα
    exact ⟨⟨haffine, hquadratic, AffineVector.composes_slotted hα⟩,
      haffine.folded_folded, hquadratic.folded_folded⟩
  · intro α _
    exact ⟨sumsAbsorbZero α, Affine.keepsValues_slotted α, Quadratic.keepsValues_slotted α,
      AffineVector.keepsValues_slotted α⟩

end MathProgram

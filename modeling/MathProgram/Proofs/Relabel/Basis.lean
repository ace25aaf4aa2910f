import MathProgram.Proofs.BasisUnion
import MathProgram.Proofs.Relabel.Labelled
import MathProgram.Proofs.SlottedKind

/-!
# Bases under a faithful relabelling

Bases are built by comparing ids.  A faithful relabelling does not change how such
a comparison comes out, so that every variable gets the slot that it would have
got, and the handle in a slot is the replaced one.

**Kinds of expressions.**  Moving and adding slot by slot do not look at handles at
all.  What is built from both and from bases, change of basis and addition, commutes
with faithful relabellings for every kind of expressions over a basis.

**Results.**
* `Basis.union_relabel`, `Basis.unique_relabel`, `Basis.slotMap_relabel`: the
  constructions of bases and of slot maps.
* `SlottedKind.IsLabelled.relabel_add`, `SlottedKind.IsLabelled.relabel_reindex`: what
  follows for a kind.
-/

namespace MathProgram

section Traversal

variable {ρ : Relabelling} {β γ X Y : Type} [Labelled X] [Labelled Y]

theorem map_relabel
    {Z : Type}
    [Labelled Z]
    (f : Y → Z)
    (hf : ∀ y, f (relabel ρ y) = relabel ρ (f y))
    (result : Except X Y) :
    (relabel ρ result).map f = relabel ρ (result.map f) := by
  cases result with
  | error x => rfl
  | ok y => exact congrArg Except.ok (hf y)

/-- A traversal comes to relabelled results when all of its steps do. -/
theorem mapM_relabel
    {f : β → Except X Y}
    {g : γ → Except X Y}
    {h : β → γ}
    (hstep : ∀ b, g (h b) = relabel ρ (f b))
    (items : List β) :
    (items.map h).mapM g = relabel ρ (items.mapM f) := by
  induction items with
  | nil =>
    rfl
  | cons b items ih =>
    rw [List.map_cons, List.mapM_cons, List.mapM_cons, hstep, ih]
    cases f b with
    | error x => rfl
    | ok y => cases items.mapM f <;> rfl

end Traversal

namespace Basis

section Relabel

variable {ρ : Relabelling} (hρ : ρ.Faithful)

include hρ

/-- Comparing ids comes out the same after a relabelling. -/
theorem id_beq_relabel
    (v : Variable)
    (id : Nat) :
    ((ρ.handle v).id == ρ.onId id) = (v.id == id) := by
  rw [Bool.eq_iff_iff, beq_iff_eq, beq_iff_eq, hρ.id_handle]
  exact hρ.injective.eq_iff

theorem slotIds_relabel
    (basis : Basis) :
    slotIds (basis.map ρ.handle) = basis.slotIds.map ρ.onId := by
  simp only [slotIds, List.map_map, List.map_inj_left, Function.comp_apply]
  intro v _
  exact hρ.id_handle v

theorem slotIds_relabel_eq_iff
    (a b : Basis) :
    slotIds (a.map ρ.handle) = slotIds (b.map ρ.handle) ↔ a.slotIds = b.slotIds := by
  rw [slotIds_relabel hρ, slotIds_relabel hρ]
  exact (List.map_injective_iff.mpr hρ.injective).eq_iff

theorem position?_relabel
    (basis : Basis)
    (v : Variable) :
    position? (basis.map ρ.handle) (ρ.handle v).id = basis.position? v.id := by
  rw [position?, position?, List.findIdx?_map, hρ.id_handle v]
  exact congrArg basis.findIdx? (funext fun w => id_beq_relabel hρ w v.id)

theorem place_relabel
    (basis : Basis)
    (v : Variable) :
    place (basis.map ρ.handle) (ρ.handle v)
      =
    ((basis.place v).1.map ρ.handle, (basis.place v).2) := by
  unfold place
  rw [position?_relabel hρ]
  cases basis.position? v.id with
  | some slot => rfl
  | none => simp

theorem placeAll_relabel
    (basis : Basis)
    (vs : List Variable) :
    placeAll (basis.map ρ.handle) (vs.map ρ.handle)
      =
    ((basis.placeAll vs).1.map ρ.handle, (basis.placeAll vs).2) := by
  induction vs generalizing basis with
  | nil =>
    rfl
  | cons v vs ih =>
    rw [List.map_cons, placeAll, place_relabel hρ, ih]
    rfl

theorem fold_relabel
    (basis : Basis) :
    fold (basis.map ρ.handle) = (basis.fold.1.map ρ.handle, basis.fold.2) := by
  exact placeAll_relabel hρ [] basis

theorem union_relabel
    (a b : Basis) :
    union (a.map ρ.handle) (b.map ρ.handle)
      =
    { basis := (a.union b).basis.map ρ.handle
      leftSlots := (a.union b).leftSlots
      rightSlots := (a.union b).rightSlots } := by
  have hleft : placeAll [] (a.map ρ.handle) = ((placeAll [] a).1.map ρ.handle, (placeAll [] a).2) :=
    placeAll_relabel hρ [] a
  rw [union, hleft, placeAll_relabel hρ]
  rfl

theorem unique_relabel
    (basis : Basis) :
    unique (basis.map ρ.handle) = basis.unique.map ρ.handle := by
  induction basis with
  | nil =>
    rfl
  | cons v rest ih =>
    have hkept : (fun w => w.id != (ρ.handle v).id) ∘ ρ.handle = fun w => w.id != v.id := by
      funext w
      rw [Function.comp_apply, hρ.id_handle v]
      exact congrArg not (id_beq_relabel hρ w v.id)
    rw [List.map_cons, unique_cons, unique_cons, ih, List.filter_map, hkept, List.map_cons]

theorem ids_relabel
    (basis : Basis) :
    ids (basis.map ρ.handle) = basis.ids.map ρ.onId := by
  rw [← slotIds_unique, ← slotIds_unique, unique_relabel hρ, slotIds_relabel hρ]

theorem slotOf_relabel
    (target : Basis)
    (v : Variable) :
    slotOf (target.map ρ.handle) (ρ.handle v) = (target.slotOf v).mapError (relabel ρ) := by
  unfold slotOf
  rw [position?_relabel hρ]
  cases target.position? v.id with
  | some slot => rfl
  | none =>
    have hid : (ρ.handle v).id = ρ.onId v.id := hρ.id_handle v
    exact congrArg (fun id => Except.error (ExprError.missingVariable id)) hid

theorem slotMap_relabel
    (source target : Basis) :
    slotMap (source.map ρ.handle) (target.map ρ.handle)
      =
    (source.slotMap target).mapError (relabel ρ) := by
  unfold slotMap
  induction source with
  | nil =>
    rfl
  | cons v source ih =>
    rw [List.map_cons, List.mapM_cons, List.mapM_cons, slotOf_relabel hρ, ih]
    cases target.slotOf v with
    | error cause => rfl
    | ok slot => cases source.mapM target.slotOf <;> rfl

end Relabel

end Basis

namespace SlottedKind

section Relabel

variable {E : Type} [Labelled E] {kind : SlottedKind E} {ρ : Relabelling}

/-- What a kind is made of commutes with a relabelling. -/
structure IsLabelled
    (kind : SlottedKind E)
    (ρ : Relabelling) :
    Prop where
  vars : ∀ e, kind.vars (relabel ρ e) = (kind.vars e).map ρ.handle
  remap : ∀ e target slots,
    kind.remap (relabel ρ e) (target.map ρ.handle) slots = relabel ρ (kind.remap e target slots)
  addSlots : ∀ a b h h',
    kind.addSlots (relabel ρ a) (relabel ρ b) h' = relabel ρ (kind.addSlots a b h)

theorem IsLabelled.relabel_add
    (h : kind.IsLabelled ρ)
    (hρ : ρ.Faithful)
    (a b : E) :
    kind.add (relabel ρ a) (relabel ρ b) = relabel ρ (kind.add a b) := by
  have hsame := Basis.slotIds_relabel_eq_iff hρ (kind.vars a) (kind.vars b)
  rw [← h.vars, ← h.vars] at hsame
  by_cases hids : (kind.vars a).slotIds = (kind.vars b).slotIds
  · rw [kind.add_of_slotIds_eq hids, kind.add_of_slotIds_eq (hsame.mpr hids)]
    exact h.addSlots a b _ _
  · rw [kind.add_of_slotIds_ne hids, kind.add_of_slotIds_ne (mt hsame.mp hids)]
    simp only [h.vars, Basis.union_relabel hρ, h.remap]
    exact h.addSlots _ _ _ _

theorem IsLabelled.relabel_reindex
    (h : kind.IsLabelled ρ)
    (hρ : ρ.Faithful)
    (e : E)
    (target : Basis) :
    kind.reindex (relabel ρ e) (target.map ρ.handle) = relabel ρ (kind.reindex e target) := by
  rw [kind.reindex_eq, kind.reindex_eq, h.vars, Basis.slotMap_relabel hρ]
  cases (kind.vars e).slotMap target with
  | error cause => rfl
  | ok slots => exact congrArg Except.ok (h.remap e target slots)

end Relabel

end SlottedKind

end MathProgram

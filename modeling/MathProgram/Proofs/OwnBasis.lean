import MathProgram.Proofs.ChangeOfBasis

/-!
# Moving an expression to its own basis

An expression can always be moved to the basis it is over.  What all slots of an
id hold is then collected in the first of them, and the others become zero.  The
expression stays as it is exactly when the slots that repeat an id hold zeros
already.

A basis without repeats has no such slots, and after one move to its own basis an
expression has zeros in all of them.  In either case moving it changes nothing.

**Main statement.**  `reindex_own_basis`.
-/

namespace MathProgram

namespace SlottedKind

section OwnBasis

variable {E : Type} (kind : SlottedKind E)

/--
What moving an expression to its own basis gives: itself exactly when it vanishes
at all slots that repeat an id, and in any case something that stays from then on.
-/
structure Gathers
    (VanishesAt : E → Nat → Prop)
    (e x : E) :
    Prop where
  moved : kind.reindex e (kind.vars e) = .ok x
  vars_eq : kind.vars x = kind.vars e
  unchanged_iff : x = e ↔ ∀ slot, (kind.vars e).Repeats slot → VanishesAt e slot
  unchanged_of_nodup : (kind.vars e).slotIds.Nodup → x = e
  again : kind.reindex x (kind.vars x) = .ok x

/-- Expressions that vanish at all slots that repeat an id stay when moved to their own basis. -/
def KeepsVanishing
    (VanishesAt : E → Nat → Prop) :
    Prop :=
  ∀ e slots, (kind.vars e).slotMap (kind.vars e) = .ok slots →
    (∀ slot, (kind.vars e).Repeats slot → VanishesAt e slot) →
      kind.remap e (kind.vars e) slots = e

variable {kind}

/-- A move to the own basis leaves zeros in repeating slots, and then keeps what it left. -/
theorem KeepsVanishing.gathers
    {γ : Type}
    {constants : E → γ}
    {VanishesAt : E → Nat → Prop}
    (hkeeps : kind.KeepsVanishing VanishesAt)
    (hmoves : kind.ChangesBasis constants VanishesAt)
    (e : E) :
    ∃ x, kind.Gathers VanishesAt e x := by
  obtain ⟨slots, hslots⟩ :=
    Basis.exists_slotMap_iff.mpr fun id (hid : id ∈ (kind.vars e).slotIds) => hid
  have hmoved : kind.reindex e (kind.vars e) = .ok (kind.remap e (kind.vars e) slots) :=
    kind.reindex_eq_ok_iff.mpr ⟨slots, hslots, rfl⟩
  have hvars : kind.vars (kind.remap e (kind.vars e) slots) = kind.vars e :=
    kind.vars_remap ..
  have hzeros := hmoves.vanishes e (kind.vars e) _ hmoved
  have hunchanged : kind.remap e (kind.vars e) slots = e
      ↔ ∀ slot, (kind.vars e).Repeats slot → VanishesAt e slot := by
    constructor
    · intro hsame
      rwa [hsame] at hzeros
    · exact hkeeps e slots hslots
  have hself : (kind.vars (kind.remap e (kind.vars e) slots)).slotMap
      (kind.vars (kind.remap e (kind.vars e) slots)) = .ok slots := by
    rw [hvars]
    exact hslots
  refine ⟨_, hmoved, hvars, hunchanged, ?_, ?_⟩
  · intro hnodup
    exact hunchanged.mpr fun slot hrepeats =>
      absurd hrepeats (Basis.not_repeats_of_nodup hnodup slot)
  · refine kind.reindex_eq_ok_iff.mpr ⟨slots, hself, hkeeps _ slots hself ?_⟩
    rwa [hvars]

end OwnBasis

end SlottedKind

section Kinds

variable (α : Type) [AddZeroClass α]

theorem Affine.keepsVanishing_slotted :
    (slotted α).KeepsVanishing VanishesAt := by
  intro e slots hslots hzeros
  ext1
  · rfl
  · exact Basis.remapVector_self_of_vanishing hslots e.length_coeffs hzeros
  · rfl

theorem Quadratic.keepsVanishing_slotted :
    (slotted α).KeepsVanishing VanishesAt := by
  intro e slots hslots hzeros
  ext1
  · rfl
  · exact Basis.remapSquare_self_of_vanishing hslots e.quad_rows e.quad_cols
      fun slot hrepeats => (hzeros slot hrepeats).2
  · exact Basis.remapVector_self_of_vanishing hslots e.length_linear
      fun slot hrepeats => (hzeros slot hrepeats).1
  · rfl

theorem AffineVector.keepsVanishing_slotted :
    (slotted α).KeepsVanishing VanishesAt := by
  intro e slots hslots hzeros
  ext1
  · rfl
  · exact Basis.remapColumns_self_of_vanishing hslots e.matrix_cols hzeros
  · rfl

end Kinds

/--
Moving an expression of any kind to its own basis, where zero is neutral as in exact
arithmetic.  It always succeeds and keeps the basis; it changes nothing exactly when
the slots that repeat an id hold zeros, in particular over a basis without repeats;
and done once more it changes nothing over any basis.
-/
theorem reindex_own_basis
    (α : Type)
    [AddZeroClass α] :
    (∀ e : Affine α, ∃ x, (Affine.slotted α).Gathers Affine.VanishesAt e x) ∧
      (∀ e : Quadratic α, ∃ x, (Quadratic.slotted α).Gathers Quadratic.VanishesAt e x) ∧
      ∀ e : AffineVector α, ∃ x, (AffineVector.slotted α).Gathers AffineVector.VanishesAt e x := by
  refine ⟨?_, ?_, ?_⟩
  · exact (Affine.keepsVanishing_slotted α).gathers (Affine.changesBasis_slotted α)
  · exact (Quadratic.keepsVanishing_slotted α).gathers (Quadratic.changesBasis_slotted α)
  · exact (AffineVector.keepsVanishing_slotted α).gathers (AffineVector.changesBasis_slotted α)

/-- The first slot of a repeated id takes over what the second one held. -/
example :
    let v : Variable := { id := 4, lower := 0, upper := 1, kind := .binary }
    let basis : Basis := [v, v]
    (⟨basis, [1, 1], 0, rfl⟩ : Affine Int).reindex basis = .ok ⟨basis, [2, 0], 0, rfl⟩ := by
  rfl

end MathProgram

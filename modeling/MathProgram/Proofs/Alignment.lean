import MathProgram.Expression.AffineVector
import MathProgram.Expression.Quadratic

/-!
# The two ways of adding

Operands over the same sequence of ids are added slot by slot.  All others are
moved to the union of their bases first.  Each kind of expression has its own
addition; these are their equations, one for either way.
-/

namespace MathProgram

section Alignment

variable {α : Type}

theorem Basis.length_eq_of_slotIds_eq
    {a b : Basis}
    (h : a.slotIds = b.slotIds) :
    a.length = b.length := by
  simpa [Basis.slotIds] using congrArg List.length h

variable [Zero α] [Add α]

/-- Two expressions moved to one basis have as many slots. -/
theorem Affine.length_vars_remap
    (a b : Affine α)
    (target : Basis)
    (left right : List Nat) :
    (a.remap target left).vars.length = (b.remap target right).vars.length :=
  rfl

theorem Affine.add_of_slotIds_eq
    {a b : Affine α}
    (h : a.vars.slotIds = b.vars.slotIds) :
    a.add b = a.addSlots b (Basis.length_eq_of_slotIds_eq h) :=
  dif_pos h

theorem Affine.add_of_slotIds_ne
    {a b : Affine α}
    (h : a.vars.slotIds ≠ b.vars.slotIds) :
    a.add b
      =
    (a.remap (a.vars.union b.vars).basis (a.vars.union b.vars).leftSlots).addSlots
      (b.remap (a.vars.union b.vars).basis (a.vars.union b.vars).rightSlots)
      (length_vars_remap ..) :=
  dif_neg h

/-- Two expressions moved to one basis have as many slots. -/
theorem Quadratic.length_vars_remap
    (a b : Quadratic α)
    (target : Basis)
    (left right : List Nat) :
    (a.remap target left).vars.length = (b.remap target right).vars.length :=
  rfl

theorem Quadratic.add_of_slotIds_eq
    {a b : Quadratic α}
    (h : a.vars.slotIds = b.vars.slotIds) :
    a.add b = a.addSlots b (Basis.length_eq_of_slotIds_eq h) :=
  dif_pos h

theorem Quadratic.add_of_slotIds_ne
    {a b : Quadratic α}
    (h : a.vars.slotIds ≠ b.vars.slotIds) :
    a.add b
      =
    (a.remap (a.vars.union b.vars).basis (a.vars.union b.vars).leftSlots).addSlots
      (b.remap (a.vars.union b.vars).basis (a.vars.union b.vars).rightSlots)
      (length_vars_remap ..) :=
  dif_neg h

theorem AffineVector.add_of_length_ne
    {a b : AffineVector α}
    (h : a.length ≠ b.length) :
    a.add b = .error (.dimensionMismatch .addedLengths a.length b.length) :=
  if_neg h

/-- Two expressions moved to one basis have as many slots. -/
theorem AffineVector.length_vars_remap
    (a b : AffineVector α)
    (target : Basis)
    (left right : List Nat) :
    (a.remap target left).vars.length = (b.remap target right).vars.length :=
  rfl

theorem AffineVector.add_of_slotIds_eq
    {a b : AffineVector α}
    (hlength : a.length = b.length)
    (h : a.vars.slotIds = b.vars.slotIds) :
    a.add b = .ok (a.addSlots b (Basis.length_eq_of_slotIds_eq h)) := by
  rw [AffineVector.add, if_pos hlength, dif_pos h]

theorem AffineVector.add_of_slotIds_ne
    {a b : AffineVector α}
    (hlength : a.length = b.length)
    (h : a.vars.slotIds ≠ b.vars.slotIds) :
    a.add b
      =
    .ok
      ((a.remap (a.vars.union b.vars).basis (a.vars.union b.vars).leftSlots).addSlots
        (b.remap (a.vars.union b.vars).basis (a.vars.union b.vars).rightSlots)
        (length_vars_remap ..)) := by
  rw [AffineVector.add, if_pos hlength, dif_neg h]

end Alignment

end MathProgram

import MathProgram.Basis.SlotMap
import MathProgram.Remap

/-!
# Affine expressions

An affine expression has one coefficient per slot of its basis and a constant.
Its basis may hold an id several times; the coefficients of such slots count
together.

**Addition.**  Two expressions over the same sequence of ids are added slot by
slot over the basis of the left one.  All others are moved to the union of
their bases first, which has one slot per id.

**Change of basis.**  `reindex` moves an expression to a basis that has all of
its ids, and `folded` removes the repeated slots.
-/

namespace MathProgram

/-- A weighted sum of variables plus a constant. -/
structure Affine (α : Type) where
  vars : Basis
  coeffs : List α
  constant : α
  length_coeffs : coeffs.length = vars.length

namespace Affine

section Affine

variable {α : Type}

/-- An expression from its parts, provided that there is one coefficient per variable. -/
def ofParts
    (vars : Basis)
    (coeffs : List α)
    (constant : α) :
    Except ExprError (Affine α) :=
  if h : coeffs.length = vars.length then
    .ok { vars, coeffs, constant, length_coeffs := h }
  else
    .error (.dimensionMismatch .coefficientsOfVariables vars.length coeffs.length)

/-- A constant, over the empty basis. -/
def ofConstant
    (constant : α) :
    Affine α where
  vars := []
  coeffs := []
  constant := constant
  length_coeffs := rfl

/-- A single variable with coefficient one. -/
def ofVariable
    [Zero α]
    [One α]
    (v : Variable) :
    Affine α where
  vars := [v]
  coeffs := [1]
  constant := 0
  length_coeffs := rfl

/-- The expression without variables that is zero. -/
instance
    [Zero α] :
    Inhabited (Affine α) :=
  ⟨ofConstant 0⟩

/-- The distinct ids, in order of first occurrence. -/
def ids
    (e : Affine α) :
    List Nat :=
  e.vars.ids

/-- The number of distinct variables. -/
def numVars
    (e : Affine α) :
    Nat :=
  e.ids.length

/-- Id and coefficient of every slot. -/
def terms
    (e : Affine α) :
    List (Nat × α) :=
  e.vars.slotIds.zip e.coeffs

/-- Move an expression to a basis along a slot list. -/
def remap
    [Zero α]
    [Add α]
    (e : Affine α)
    (target : Basis)
    (slots : List Nat) :
    Affine α where
  vars := target
  coeffs := remapVector slots target.length e.coeffs
  constant := e.constant
  length_coeffs := length_remapVector slots target.length e.coeffs

/-- Move an expression to a basis that has all of its ids. -/
def reindex
    [Zero α]
    [Add α]
    (e : Affine α)
    (target : Basis) :
    Except ExprError (Affine α) :=
  (e.vars.slotMap target).map (e.remap target)

/-- The same expression with one slot per id. -/
def folded
    [Zero α]
    [Add α]
    (e : Affine α) :
    Affine α :=
  e.remap e.vars.fold.1 e.vars.fold.2

/-- Add the coefficients of two expressions slot by slot, over the basis of the left one. -/
def addSlots
    [Add α]
    (a b : Affine α)
    (sameLength : a.vars.length = b.vars.length) :
    Affine α where
  vars := a.vars
  coeffs := List.zipWith (· + ·) a.coeffs b.coeffs
  constant := a.constant + b.constant
  length_coeffs := by
    simp [a.length_coeffs, b.length_coeffs, sameLength]

/-- The sum of two expressions. -/
def add
    [Zero α]
    [Add α]
    (a b : Affine α) :
    Affine α :=
  if h : a.vars.slotIds = b.vars.slotIds then
    a.addSlots b (by simpa [Basis.slotIds] using congrArg List.length h)
  else
    let union := a.vars.union b.vars
    (a.remap union.basis union.leftSlots).addSlots (b.remap union.basis union.rightSlots) rfl

/-- Multiply every coefficient and the constant by a factor from the right. -/
def scale
    [Mul α]
    (e : Affine α)
    (factor : α) :
    Affine α where
  vars := e.vars
  coeffs := e.coeffs.map (· * factor)
  constant := e.constant * factor
  length_coeffs := by
    simp [e.length_coeffs]

/-- Equality of ids, coefficients and constants. -/
instance
    [BEq α] :
    BEq (Affine α) :=
  ⟨fun a b => a.vars == b.vars && a.coeffs == b.coeffs && a.constant == b.constant⟩

end Affine

end Affine

end MathProgram

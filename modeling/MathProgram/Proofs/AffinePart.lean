import MathProgram.Proofs.ChangeOfBasis
import MathProgram.Proofs.Regrouping

/-!
# Quadratic expressions and their affine parts

An affine expression is turned into a quadratic one by a zero matrix, and a
quadratic expression has an affine part.  Affine and quadratic expressions are
computed apart from each other, and it does not matter when an expression is
turned into a quadratic one.

**Forgetting the matrix.**  The affine part of a result is computed from the affine
parts of the operands alone, without any law of arithmetic.

**Adding a matrix.**  Zeros are added up in a matrix that was zero.  This needs two
laws of zero, which hold for rounded numbers too as long as a factor keeps the sign
of zero.

**Main statement.**  `Quadratic.agrees_with_affine`.
-/

namespace MathProgram

/-- Folding moves along slots that only the basis decides on. -/
theorem SlottedKind.IsMap.map_folded
    {E F : Type}
    {source : SlottedKind E}
    {target : SlottedKind F}
    {f : E → F}
    (hf : source.IsMap target f)
    (e : E) :
    f (source.folded e) = target.folded (f e) := by
  rw [SlottedKind.folded, SlottedKind.folded, hf.map_remap, hf.vars_map]

namespace Quadratic

/--
The affine part of a sum, of a multiple, of a folded and of a moved expression is
that of the affine parts.  Affine expressions are added, folded and moved
alike as affine and as quadratic ones where zero and zero are zero, and multiplied
alike by a factor that keeps zero.  Moves of both are refused for one cause.  So a
total comes out alike whether its summands are made quadratic early or late.
-/
theorem agrees_with_affine :
    (∀ (α : Type) [Zero α] [Add α] [Mul α],
      (∀ p q : Quadratic α, (p.add q).affinePart = p.affinePart.add q.affinePart) ∧
      (∀ (p : Quadratic α) (terms : List (Quadratic α)),
        (terms.foldl add p).affinePart = (terms.map affinePart).foldl Affine.add p.affinePart) ∧
      (∀ (p : Quadratic α) (factor : α),
        (p.scale factor).affinePart = p.affinePart.scale factor) ∧
      (∀ p : Quadratic α, p.folded.affinePart = p.affinePart.folded) ∧
      (∀ (p : Quadratic α) (target : Basis),
        (p.reindex target).map affinePart = p.affinePart.reindex target) ∧
      ∀ a : Affine α, (ofAffine a).affinePart = a)
      ∧
    (∀ (α : Type) [Zero α] [Add α], (0 : α) + 0 = 0 →
      (∀ a b : Affine α, (ofAffine a).add (ofAffine b) = ofAffine (a.add b)) ∧
      (∀ (a : Affine α) (terms : List (Affine α)),
        (terms.map ofAffine).foldl add (ofAffine a) = ofAffine (terms.foldl Affine.add a)) ∧
      (∀ a : Affine α, (ofAffine a).folded = ofAffine a.folded) ∧
      ∀ (a : Affine α) (target : Basis),
        (ofAffine a).reindex target = (a.reindex target).map ofAffine)
      ∧
    (∀ (α : Type) [Zero α] [Mul α] (factor : α), 0 * factor = 0 →
      ∀ a : Affine α, (ofAffine a).scale factor = ofAffine (a.scale factor))
      ∧
    ∀ (α : Type) [Zero α] [One α] [Add α], (0 : α) + 0 = 0 →
      ∀ (items : List (ScalarExpr α)) (total : ScalarExpr α),
        (items.foldl ScalarExpr.add total).toQuadratic
          =
        (items.map ScalarExpr.toQuadratic).foldl add total.toQuadratic := by
  refine ⟨?_, ?_, ?_, ?_⟩
  · intro α _ _ _
    have hmap := isMap_affinePart α
    refine ⟨hmap.map_add, ?_, ?_, hmap.map_folded, hmap.map_reindex, ?_⟩
    · intro p terms
      exact hmap.map_foldl_add terms p
    · intro p factor
      rfl
    · intro a
      rfl
  · intro α _ _ hzero
    have hmap := isMap_ofAffine hzero
    refine ⟨?_, ?_, ?_, ?_⟩
    · intro a b
      exact (hmap.map_add a b).symm
    · intro a terms
      exact (hmap.map_foldl_add terms a).symm
    · intro a
      exact (hmap.map_folded a).symm
    · intro a target
      exact (hmap.map_reindex a target).symm
  · intro α _ _ factor hfactor a
    exact (ofAffine_scale hfactor a).symm
  · intro α _ _ _ hzero items total
    exact ScalarExpr.toQuadratic_foldl_add hzero items total

/-- Three slots, two of which hold one id. -/
def twiceListed : Affine ℚ where
  vars := [⟨5, 0, 1, .binary⟩, ⟨2, 0, 1, .binary⟩, ⟨5, 0, 9, .integer⟩]
  coeffs := [1, 2, 4]
  constant := 7
  length_coeffs := rfl

/-- Two slots, one of which holds an id of the other expression. -/
def onceListed : Affine ℚ where
  vars := [⟨2, 0, 1, .binary⟩, ⟨9, 0, 1, .binary⟩]
  coeffs := [6, -1]
  constant := 3
  length_coeffs := rfl

/-- Zero and minus three keep zero, and a sum over a union comes out with a zero matrix. -/
theorem agrees_with_affine_twiceListed :
    (0 : ℚ) + 0 = 0 ∧ (0 : ℚ) * (-3) = 0 ∧
      (ofAffine twiceListed).add (ofAffine onceListed) = ofAffine (twiceListed.add onceListed) ∧
      (twiceListed.add onceListed).coeffs = [5, 8, -1] ∧
      (ofAffine twiceListed).scale (-3) = ofAffine (twiceListed.scale (-3)) ∧
      (ofAffine twiceListed).reindex onceListed.vars = .error (.missingVariable 5) := by
  have hzero : (0 : ℚ) + 0 = 0 := by
    decide +kernel
  have hfactor : (0 : ℚ) * (-3) = 0 := by
    decide +kernel
  obtain ⟨hadd, -, -, hreindex⟩ := agrees_with_affine.2.1 ℚ hzero
  have hscale := agrees_with_affine.2.2.1 ℚ (-3) hfactor
  refine ⟨hzero, hfactor, hadd _ _, ?_, hscale _, ?_⟩
  · decide +kernel
  · rw [hreindex]
    rfl

end Quadratic

end MathProgram

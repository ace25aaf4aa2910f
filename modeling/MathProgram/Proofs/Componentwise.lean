import MathProgram.Proofs.Checked.Vector
import MathProgram.Proofs.VectorSum

/-!
# Affine vectors component by component

A component of an affine vector is an affine expression over the basis of the
vector.  What is computed from vectors has in every component what is computed
from their components alone: the same handles slot by slot, the same coefficients
and the same constant.  No law of arithmetic is needed, because every coefficient
is added up from the same numbers in the same order.

**Loops.**  A matrix is moved to other slots column by column, and all of its rows
take part in each step of the loop.  A single expression is moved entry by entry.
The statement therefore speaks of the checked loops too, on vectors of which no
shape is promised in advance.

**Main statement.**  `AffineVector.computed_componentwise`.
-/

namespace MathProgram

namespace AffineVector

section Components

variable {α : Type} {e : AffineVector α} {i : Nat} {s : Affine α}

theorem component_scale
    [Mul α]
    (h : e.component i = .ok s)
    (factor : α) :
    (e.scale factor).component i = .ok (s.scale factor) := by
  obtain ⟨hvars, hrow, hoffset⟩ := component_eq_ok_iff.mp h
  refine component_eq_ok_iff.mpr ⟨hvars, ?_, ?_⟩
  · have hscaled : (e.matrix.rows.map (List.map (· * factor)))[i]?
        = some (s.coeffs.map (· * factor)) := by
      rw [List.getElem?_map, hrow]
      rfl
    exact hscaled
  · have hscaled : (e.offset.map (· * factor))[i]? = some (s.constant * factor) := by
      rw [List.getElem?_map, hoffset]
      rfl
    exact hscaled

/-- Reading a component of a computed vector is checked and refused as without the checks. -/
theorem raw_bind_component
    (r : Except ExprError (AffineVector α))
    (i : Nat) :
    (Checked.ofResult (r.map raw)).bind (fun v => v.component i)
      =
    Checked.ofResult ((r.bind fun v => v.component i).map Affine.raw) := by
  cases r with
  | error cause => rfl
  | ok v => exact v.raw_component i

variable [Zero α] [Add α]

/-- A component of a moved vector is the moved component, and the same variables have no slot. -/
theorem component_reindex
    (h : e.component i = .ok s)
    (target : Basis) :
    (e.reindex target).bind (fun moved => moved.component i) = s.reindex target := by
  rcases (respects_component i).reindex h target with ⟨x, y, hx, hy, hxy⟩ | ⟨cause, hx, hy⟩
  · have hvector : e.reindex target = .ok x := hx
    have hscalar : s.reindex target = .ok y := hy
    rw [hvector, hscalar]
    exact hxy
  · have hvector : e.reindex target = .error cause := hx
    have hscalar : s.reindex target = .error cause := hy
    rw [hvector, hscalar]
    rfl

end Components

/--
Vectors are added, multiplied and moved to another basis component by component.
The sum of two vectors of one length exists; its component is the sum of their
components, that of a multiple is the multiple, and moving first and reading a
component then gives the expression or the refusal of the other order.  The loops
over the columns of a matrix do the same as those over a single row.
-/
theorem computed_componentwise
    {α : Type}
    [Zero α]
    [Add α]
    [Mul α]
    {a b : AffineVector α}
    (hlength : a.length = b.length)
    {i : Nat}
    (hi : i < a.length)
    (factor : α)
    (target : Basis) :
    ∃ s t, a.component i = .ok s ∧ b.component i = .ok t ∧
      ((∃ sum, a.add b = .ok sum ∧ sum.component i = .ok (s.add t)) ∧
        (a.scale factor).component i = .ok (s.scale factor) ∧
        (a.reindex target).bind (fun moved => moved.component i) = s.reindex target)
        ∧
      ((a.raw.add b.raw).bind (fun sum => sum.component i) = s.raw.add t.raw ∧
        (a.raw.scale factor).component i = s.raw.scale factor ∧
        (a.raw.reindex target).bind (fun moved => moved.component i) = s.raw.reindex target) := by
  obtain ⟨s, hs⟩ := exists_component hi
  obtain ⟨t, ht⟩ := exists_component (hlength ▸ hi)
  have hsum := add_of_length_eq hlength
  have hadd := component_add hs ht
  have hscale := component_scale hs factor
  have hreindex := component_reindex hs target
  refine ⟨s, t, hs, ht, ⟨⟨_, hsum, hadd⟩, hscale, hreindex⟩, ?_, ?_, ?_⟩
  · rw [raw_add, raw_bind_component, Affine.raw_add, hsum]
    exact congrArg (fun r => Checked.ofResult (r.map Affine.raw)) hadd
  · have hraw : (a.raw.scale factor).component i
        = Checked.ofResult (((a.scale factor).component i).map Affine.raw) :=
      (a.scale factor).raw_component i
    rw [hraw, hscale, Affine.raw_scale]
    rfl
  · rw [raw_reindex, raw_bind_component, hreindex, Affine.raw_reindex]

/-- Two components over a basis that holds one id in two slots. -/
def repeating : AffineVector ℚ where
  vars := [⟨5, 0, 1, .binary⟩, ⟨2, 0, 1, .binary⟩, ⟨5, 0, 9, .integer⟩]
  matrix := ⟨3, [[1, 2, 4], [0, 3, 5]], by decide⟩
  offset := [7, 8]
  matrix_cols := rfl
  matrix_rows := rfl

/-- Two components over a basis that has one of these ids and one more. -/
def overlapping : AffineVector ℚ where
  vars := [⟨2, 0, 1, .binary⟩, ⟨9, 0, 1, .binary⟩]
  matrix := ⟨2, [[1, 1], [6, 2]], by decide⟩
  offset := [1, -1]
  matrix_cols := rfl
  matrix_rows := rfl

/-- The second component of a sum over a union, and of a move for which a variable is missing. -/
theorem computed_componentwise_repeating :
    repeating.length = overlapping.length ∧ 1 < repeating.length ∧
      ∃ s t, repeating.component 1 = .ok s ∧ overlapping.component 1 = .ok t ∧
        (∃ sum, repeating.add overlapping = .ok sum ∧ sum.component 1 = .ok (s.add t)) ∧
        (s.add t).coeffs = [5, 9, 2] ∧
        (repeating.reindex overlapping.vars).bind (fun moved => moved.component 1)
          = .error (.missingVariable 5) := by
  obtain ⟨s, t, hs, ht, ⟨hsum, -, hmoved⟩, -⟩ :=
    computed_componentwise (a := repeating) (b := overlapping) (i := 1) rfl (by decide) 1
      overlapping.vars
  refine ⟨rfl, by decide, s, t, hs, ht, hsum, ?_, ?_⟩
  · cases hs
    cases ht
    decide +kernel
  · rw [hmoved]
    cases hs
    rfl

end AffineVector

end MathProgram

import MathProgram.Proofs.Checked.Instruction
import MathProgram.Proofs.Traversal

/-!
# Calls that are refused, and calls that panic

A maker refuses data that does not fit together.  The only call that panics is
a weighted sum of lists of different lengths: no other operation of the library
has an outcome besides a result and a refusal.

**Results.**
* `Maker.value_cases`: a maker gives a value exactly on data that fits.
* `Instr.answer_eq_panic_iff`: which calls panic, and with what cause.
-/

namespace MathProgram

section Fits

variable {α β γ V : Type}

/-- The data of a maker fits together. -/
def Maker.Fits : Maker α → Prop
  | affine slots coeffs _ => coeffs.length = slots.length
  | quadratic quad linear _ slots =>
    quad.rows.length = slots.length ∧ quad.cols = slots.length ∧ linear.length = slots.length
  | quadraticOfMatrix quad slots => quad.rows.length = slots.length ∧ quad.cols = slots.length
  | affineVector matrix slots offset =>
    matrix.cols = slots.length ∧ matrix.rows.length = offset.length
  | sumRow grid row => row < grid.length
  | sumColumn grid column => ∀ cells ∈ grid, column < cells.length
  | dot slots coeffs => coeffs.length = slots.length
  | _ => True

/-- A call is a weighted sum of lists of different lengths, and panics with this cause. -/
def Instr.Mismatched
    (instr : Instr α)
    (p : Panic) :
    Prop :=
  ∃ slots coeffs,
    instr = .make (.dot slots coeffs) ∧
      coeffs.length ≠ slots.length ∧
        p = .dot { vars := slots.length, coeffs := coeffs.length }

/-- A computation that gives a result or is refused. -/
def Checked.NoPanic
    (x : Checked β) :
    Prop :=
  ∀ p, x ≠ .error (.panic p)

namespace Checked

theorem noPanic_ok
    (b : β) :
    NoPanic (.ok b) := by
  intro p h
  cases h

theorem noPanic_ofResult
    (r : Except ExprError β) :
    NoPanic (ofResult r) := by
  intro p h
  cases r with
  | error cause => cases h
  | ok b => cases h

theorem NoPanic.map
    {x : Checked β}
    (hx : NoPanic x)
    (f : β → γ) :
    NoPanic (Except.map f x) := by
  intro p h
  cases x with
  | error fault =>
    cases h
    exact hx p rfl
  | ok b => cases h

theorem noPanic_withKind
    {operand : Option β}
    {next : β → Checked (Answer α V)}
    (hnext : ∀ b, NoPanic (next b)) :
    NoPanic (withKind operand next) := by
  cases operand with
  | none => exact noPanic_ok _
  | some b => exact hnext b

end Checked

section Makers

/-- Parts give an affine expression exactly if they fit. -/
theorem Affine.exists_ofParts_iff
    (slots : Basis)
    (coeffs : List α)
    (k : α) :
    (∃ e, Affine.ofParts slots coeffs k = .ok e) ↔ coeffs.length = slots.length := by
  unfold Affine.ofParts
  split
  · next h => simp [h]
  · next h => simp [h]

/-- Parts give a quadratic expression exactly if they fit. -/
theorem Quadratic.exists_ofParts_iff
    (quad : DenseMatrix α)
    (linear : List α)
    (k : α)
    (slots : Basis) :
    (∃ e, Quadratic.ofParts quad linear k slots = .ok e)
      ↔
    quad.rows.length = slots.length ∧ quad.cols = slots.length ∧ linear.length = slots.length := by
  unfold Quadratic.ofParts
  split
  · next hrows =>
    split
    · next hcols => split <;> simp_all
    · next hcols => simp [hcols]
  · next hrows => simp [hrows]

/-- A matrix gives a quadratic expression exactly if it is square over the variables. -/
theorem Quadratic.exists_ofQuad_iff
    [Zero α]
    (quad : DenseMatrix α)
    (slots : Basis) :
    (∃ e, Quadratic.ofQuad quad slots = .ok e)
      ↔
    quad.rows.length = slots.length ∧ quad.cols = slots.length := by
  unfold Quadratic.ofQuad
  rw [Quadratic.exists_ofParts_iff, List.length_replicate]
  simp

/-- Parts give an affine vector exactly if they fit. -/
theorem AffineVector.exists_ofParts_iff
    (matrix : DenseMatrix α)
    (slots : Basis)
    (offset : List α) :
    (∃ e, AffineVector.ofParts matrix slots offset = .ok e)
      ↔
    matrix.cols = slots.length ∧ matrix.rows.length = offset.length := by
  unfold AffineVector.ofParts
  split
  · next hcols => split <;> simp_all
  · next hcols => simp [hcols]

variable [Zero α] [One α] [Add α]

/-- A row of a grid has a sum exactly if the grid has the row. -/
theorem ScalarExpr.exists_sumRow_iff
    (grid : List Basis)
    (row : Nat) :
    (∃ e : ScalarExpr α, ScalarExpr.sumRow grid row = .ok e) ↔ row < grid.length := by
  unfold ScalarExpr.sumRow
  cases hget : grid[row]? with
  | none => simpa using List.getElem?_eq_none_iff.mp hget
  | some _ => simpa using (List.getElem?_eq_some_iff.mp hget).1

theorem ScalarExpr.exists_cellAt_iff
    (column : Nat)
    (cells : Basis) :
    (∃ v, ScalarExpr.cellAt column cells = .ok v) ↔ column < cells.length := by
  unfold ScalarExpr.cellAt
  cases hget : cells[column]? with
  | none => simpa using List.getElem?_eq_none_iff.mp hget
  | some _ => simpa using (List.getElem?_eq_some_iff.mp hget).1

/-- A column of a grid has a sum exactly if every row reaches it. -/
theorem ScalarExpr.exists_sumColumn_iff
    (grid : List Basis)
    (column : Nat) :
    (∃ e : ScalarExpr α, ScalarExpr.sumColumn grid column = .ok e)
      ↔
    ∀ cells ∈ grid, column < cells.length := by
  simp only [ScalarExpr.sumColumn, exists_map_eq_ok_iff, exists_mapM_eq_ok_iff, exists_cellAt_iff]

/-- A result that is there exactly on a condition is handed on, or refused without it. -/
theorem Checked.ofResult_cases
    {P : Prop}
    {r : Except ExprError β}
    (h : (∃ b, r = .ok b) ↔ P)
    (give : β → γ) :
    (P ∧ ∃ c, (ofResult r).map give = .ok c) ∨
      (¬ P ∧ ∃ cause, (ofResult r).map give = .error (.refused cause)) := by
  cases r with
  | ok b => exact .inl ⟨h.mp ⟨b, rfl⟩, give b, rfl⟩
  | error cause =>
    refine .inr ⟨?_, cause, rfl⟩
    intro hP
    obtain ⟨b, hb⟩ := h.mpr hP
    cases hb

/-- A maker gives a value, is refused, or is a weighted sum of lists of different lengths. -/
theorem Maker.value_cases
    (m : Maker α) :
    (m.Fits ∧ ∃ v, m.value = .ok v) ∨
      (¬ m.Fits ∧ ∃ cause, m.value = .error (.refused cause)) ∨
        ∃ p, (Instr.make m).Mismatched p ∧ m.value = .error (.panic p) := by
  cases m with
  | affine slots coeffs k =>
    exact (Checked.ofResult_cases (Affine.exists_ofParts_iff slots coeffs k) _).imp_right .inl
  | quadratic quad linear k slots =>
    have hiff := Quadratic.exists_ofParts_iff quad linear k slots
    exact (Checked.ofResult_cases hiff _).imp_right .inl
  | quadraticOfMatrix quad slots =>
    exact (Checked.ofResult_cases (Quadratic.exists_ofQuad_iff quad slots) _).imp_right .inl
  | affineVector matrix slots offset =>
    have hiff := AffineVector.exists_ofParts_iff matrix slots offset
    exact (Checked.ofResult_cases hiff _).imp_right .inl
  | sumRow grid row =>
    exact (Checked.ofResult_cases (ScalarExpr.exists_sumRow_iff grid row) _).imp_right .inl
  | sumColumn grid column =>
    exact (Checked.ofResult_cases (ScalarExpr.exists_sumColumn_iff grid column) _).imp_right .inl
  | dot slots coeffs =>
    by_cases h : coeffs.length = slots.length
    · refine .inl ⟨h, ?_⟩
      simp only [value, ScalarExpr.dot, dif_pos h]
      exact ⟨_, rfl⟩
    · refine .inr (.inr ⟨_, ⟨slots, coeffs, rfl, h, rfl⟩, ?_⟩)
      simp only [value, ScalarExpr.dot, dif_neg h]
      rfl
  | _ => exact .inl ⟨trivial, _, rfl⟩

end Makers

section Panics

variable [Zero α] [One α] [Add α] [Mul α] [Neg α]

open Checked

theorem UnaryCall.noPanic_answer
    (f : UnaryCall α)
    (v : Value α) :
    NoPanic (f.answer v) := by
  cases f with
  | reindexAffine | reindexQuadratic | reindexAffineVector | component | rows | linearRow =>
    exact noPanic_withKind fun _ => (noPanic_ofResult _).map _
  | toAffine =>
    exact noPanic_withKind fun _ => noPanic_withKind fun _ => noPanic_ok _
  | sides =>
    refine noPanic_withKind fun c => ?_
    cases c <;> exact noPanic_ok _
  | _ => exact noPanic_withKind fun _ => noPanic_ok _

theorem BinaryCall.noPanic_answer
    (f : BinaryCall)
    (v w : Value α) :
    NoPanic (f.answer v w) := by
  cases f with
  | add | addAffineVector | compare =>
    exact noPanic_withKind fun _ => noPanic_withKind fun _ => (noPanic_ofResult _).map _
  | _ => exact noPanic_withKind fun _ => noPanic_withKind fun _ => noPanic_ok _

/-- A call panics exactly if it is a weighted sum of lists of different lengths. -/
theorem Instr.answer_eq_panic_iff
    (instr : Instr α)
    (values : List (Value α))
    (p : Panic) :
    instr.answer values = .error (.panic p) ↔ instr.Mismatched p := by
  constructor
  · intro h
    cases instr with
    | make m =>
      obtain ⟨-, v, hv⟩ | ⟨-, cause, hv⟩ | ⟨q, hq, hv⟩ := m.value_cases
      all_goals
        rw [answer, hv] at h
        cases h
      exact hq
    | unary f a =>
      exact absurd h (noPanic_withKind f.noPanic_answer p)
    | binary f a b =>
      have hnext (v : Value α) : NoPanic (withKind values[b]? (f.answer v)) :=
        noPanic_withKind (f.noPanic_answer v)
      exact absurd h (noPanic_withKind hnext p)
    | sum places | sumFromConstant places =>
      exact absurd h (noPanic_withKind (fun _ => noPanic_ok _) p)
  · rintro ⟨slots, coeffs, rfl, hlengths, rfl⟩
    simp only [answer, Maker.value, ScalarExpr.dot, dif_neg hlengths]
    rfl

end Panics

end Fits

end MathProgram

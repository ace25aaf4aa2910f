import MathProgram.Expression.Summation
import MathProgram.Proofs.Checked.Quadratic

/-!
# Checked algebra of scalar expressions

A raw scalar expression is a constant, a variable, a raw affine or a raw
quadratic expression.  Its operations promote their operands like those of the
library, and perform the checked operations of the promoted kind.

**Stopping.**  A weighted sum of lists of different lengths is the only
operation that stops on expressions of good shape.

**Results.**
* `raw_add`, `raw_coeffs`: no check of a sum or of reading coefficients fails.
* `raw_dot`: a weighted sum stops exactly at lists of different lengths.
-/

namespace MathProgram

/-- A scalar expression whose parts may have any shapes. -/
inductive RawScalar (α : Type) where
  | constant (k : α)
  | var (v : Variable)
  | affine (e : RawAffine α)
  | quadratic (e : RawQuadratic α)

/-- The parts of an affine or a quadratic expression fit. -/
def RawScalar.WellShaped
    {α : Type}
    (e : RawScalar α) :
    Prop :=
  match e with
  | constant _ => True
  | var _ => True
  | affine e => e.WellShaped
  | quadratic e => e.WellShaped

/-- The kind and the parts of an expression. -/
def ScalarExpr.raw
    {α : Type} :
    ScalarExpr α → RawScalar α
  | constant k => .constant k
  | var v => .var v
  | affine e => .affine e.raw
  | quadratic e => .quadratic e.raw

namespace RawScalar

section Operations

variable {α : Type} [Zero α] [One α]

/-- The expression as an affine one, unless it is quadratic. -/
def toAffine? : RawScalar α → Option (RawAffine α)
  | constant k => some (Affine.ofConstant k).raw
  | var v => some (Affine.ofVariable v).raw
  | affine e => some e
  | quadratic _ => none

/-- The expression as a quadratic one. -/
def toQuadratic : RawScalar α → RawQuadratic α
  | constant k => .ofAffine (Affine.ofConstant k).raw
  | var v => .ofAffine (Affine.ofVariable v).raw
  | affine e => .ofAffine e
  | quadratic e => e

/-- The sum of two expressions. -/
def add
    [Add α] :
    RawScalar α → RawScalar α → Checked (RawScalar α)
  | constant a, constant b => .ok (constant (a + b))
  | a, b =>
    match a.toAffine?, b.toAffine? with
    | some x, some y => (x.add y).map affine
    | _, _ => (a.toQuadratic.add b.toQuadratic).map quadratic

/-- Multiply an expression by a factor. -/
def scale
    [Mul α]
    (e : RawScalar α)
    (factor : α) :
    Checked (RawScalar α) :=
  match e with
  | constant k => .ok (constant (k * factor))
  | var v => ((Affine.ofVariable v).raw.scale factor).map affine
  | affine e => (e.scale factor).map affine
  | quadratic e => .ok (quadratic (e.scale factor))

/-- The left expression plus the right one multiplied by minus one. -/
def sub
    [Add α]
    [Mul α]
    [Neg α]
    (a b : RawScalar α) :
    Checked (RawScalar α) := do
  a.add (← b.scale (-1))

/-- The coefficients over the distinct ids. -/
def coeffs
    [Add α] :
    RawScalar α → Checked (List α)
  | constant _ => .ok []
  | var _ => .ok [1]
  | affine e => e.folded.map RawAffine.coeffs
  | quadratic e => e.coeffs

/-- Add expressions one after another. -/
def addAll
    [Add α]
    (start : RawScalar α)
    (items : List (RawScalar α)) :
    Checked (RawScalar α) :=
  items.foldlM add start

/-- The sum of variables. -/
def sumVars
    [Add α]
    (vars : Basis) :
    Checked (RawScalar α) :=
  addAll (ScalarExpr.empty : ScalarExpr α).raw (vars.map var)

/-- The sum of one row of a grid. -/
def sumRow
    [Add α]
    (grid : List Basis)
    (row : Nat) :
    Checked (RawScalar α) :=
  match grid[row]? with
  | some cells => sumVars cells
  | none => .error (.refused (.dimensionMismatch .gridRowIndex grid.length row))

/-- The sum of one column of a grid. -/
def sumColumn
    [Add α]
    (grid : List Basis)
    (column : Nat) :
    Checked (RawScalar α) := do
  sumVars (← Checked.ofResult (grid.mapM (ScalarExpr.cellAt column)))

/-- The sum of variables weighted by coefficients, which stops at lists of different lengths. -/
def dot
    [Add α]
    (vars : Basis)
    (coeffs : List α) :
    Checked (RawScalar α) :=
  if coeffs.length ≠ vars.length then
    .error (.panic (.dot { vars := vars.length, coeffs := coeffs.length }))
  else do
    add (ScalarExpr.empty : ScalarExpr α).raw (affine (← RawAffine.assemble vars coeffs 0))

end Operations

end RawScalar

namespace ScalarExpr

section Raw

variable {α : Type}

theorem wellShaped_raw
    (e : ScalarExpr α) :
    e.raw.WellShaped := by
  cases e with
  | constant k => trivial
  | var v => trivial
  | affine e => exact e.wellShaped_raw
  | quadratic e => exact e.wellShaped_raw

variable [Zero α] [One α]

theorem raw_toAffine?
    (e : ScalarExpr α) :
    e.raw.toAffine? = e.toAffine?.map Affine.raw := by
  cases e <;> rfl

theorem raw_toQuadratic
    (e : ScalarExpr α) :
    e.raw.toQuadratic = e.toQuadratic.raw := by
  cases e <;> rfl

theorem raw_scale
    [Mul α]
    (e : ScalarExpr α)
    (factor : α) :
    e.raw.scale factor = .ok (e.scale factor).raw := by
  cases e with
  | constant k => rfl
  | var v => exact congrArg (Except.map RawScalar.affine) ((Affine.ofVariable v).raw_scale factor)
  | affine e => exact congrArg (Except.map RawScalar.affine) (e.raw_scale factor)
  | quadratic e => rfl

variable [Add α]

/-- No check of a sum fails, whichever route it takes. -/
theorem raw_add
    (a b : ScalarExpr α) :
    a.raw.add b.raw = .ok (a.add b).raw := by
  have hquadratic :
      (a.raw.toQuadratic.add b.raw.toQuadratic).map RawScalar.quadratic
        = .ok (raw (quadratic (a.toQuadratic.add b.toQuadratic))) := by
    rw [raw_toQuadratic, raw_toQuadratic, Quadratic.raw_add]
    rfl
  have haffine {x y : Affine α} (_ : a.toAffine? = some x) (_ : b.toAffine? = some y) :
      (x.raw.add y.raw).map RawScalar.affine = .ok (raw (affine (x.add y))) :=
    congrArg (Except.map RawScalar.affine) (x.raw_add y)
  cases a with
  | constant j =>
    cases b with
    | constant k => rfl
    | quadratic f => exact hquadratic
    | _ => exact haffine rfl rfl
  | quadratic e =>
    cases b <;> exact hquadratic
  | _ =>
    cases b with
    | quadratic f => exact hquadratic
    | _ => exact haffine rfl rfl

theorem raw_sub
    [Mul α]
    [Neg α]
    (a b : ScalarExpr α) :
    a.raw.sub b.raw = .ok (a.sub b).raw := by
  unfold RawScalar.sub
  rw [raw_scale, Checked.ok_bind]
  exact raw_add a (b.scale (-1))

theorem raw_coeffs
    (e : ScalarExpr α) :
    e.raw.coeffs = .ok e.coeffs := by
  cases e with
  | constant k => rfl
  | var v => rfl
  | affine e => exact congrArg (Except.map RawAffine.coeffs) e.raw_folded
  | quadratic e => exact e.raw_coeffs

/-- No check fails while expressions are added one after another. -/
theorem raw_addAll
    (start : ScalarExpr α)
    (items : List (ScalarExpr α)) :
    start.raw.addAll (items.map raw) = .ok (items.foldl add start).raw := by
  induction items generalizing start with
  | nil =>
    rfl
  | cons e items ih =>
    unfold RawScalar.addAll at ih ⊢
    rw [List.map_cons, List.foldlM_cons, raw_add, Checked.ok_bind, ih, List.foldl_cons]

theorem raw_sumVars
    (vars : Basis) :
    RawScalar.sumVars vars = .ok (sumVars vars : ScalarExpr α).raw := by
  have hall := raw_addAll empty (vars.map (var : Variable → ScalarExpr α))
  rw [List.map_map] at hall
  exact hall

theorem raw_sumRow
    (grid : List Basis)
    (row : Nat) :
    RawScalar.sumRow grid row
      =
    Checked.ofResult ((sumRow grid row).map (raw : ScalarExpr α → _)) := by
  unfold RawScalar.sumRow sumRow
  cases grid[row]? with
  | none => rfl
  | some cells => exact raw_sumVars cells

theorem raw_sumColumn
    (grid : List Basis)
    (column : Nat) :
    RawScalar.sumColumn grid column
      =
    Checked.ofResult ((sumColumn grid column).map (raw : ScalarExpr α → _)) := by
  unfold RawScalar.sumColumn sumColumn
  cases grid.mapM (cellAt column) with
  | error cause => rfl
  | ok cells => exact raw_sumVars cells

/-- A weighted sum stops exactly at lists of different lengths. -/
theorem raw_dot
    (vars : Basis)
    (coeffs : List α) :
    RawScalar.dot vars coeffs
      =
    ((dot vars coeffs).map raw).mapError fun lengths => .panic (.dot lengths) := by
  unfold RawScalar.dot dot
  by_cases h : coeffs.length = vars.length
  · rw [if_neg (not_not_intro h), dif_pos h, RawAffine.assemble_of_length_eq h, Checked.ok_bind]
    exact raw_add empty (affine { vars, coeffs, constant := 0, length_coeffs := h })
  · rw [if_pos h, dif_neg h]
    rfl

end Raw

end ScalarExpr

end MathProgram

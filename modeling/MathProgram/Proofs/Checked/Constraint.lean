import MathProgram.Constraint
import MathProgram.Proofs.Checked.Vector

/-!
# Checked comparisons

Raw expressions of either shape, and the raw constraints that compare them.  The
sides of a raw vector constraint may differ in length, so that taking its rows
could be refused; the rows of a comparison that was accepted never are.

**Results.**
* `Expression.raw_add`, `Expression.raw_compare`: sums and comparisons.
* `Constraint.raw_rows`, `ScalarConstraint.raw_linearRow`: rows and their linear
  form.
-/

namespace MathProgram

/-- A scalar or a vector expression whose parts may have any shapes. -/
inductive RawExpression (α : Type) where
  | scalar (e : RawScalar α)
  | vector (e : RawVector α)

/-- The parts of an expression fit. -/
def RawExpression.WellShaped
    {α : Type}
    (e : RawExpression α) :
    Prop :=
  match e with
  | scalar e => e.WellShaped
  | vector e => e.WellShaped

/-- The shape, the kind and the parts of an expression. -/
def Expression.raw
    {α : Type} :
    Expression α → RawExpression α
  | scalar e => .scalar e.raw
  | vector e => .vector e.raw

/-- Two raw scalar expressions that are compared. -/
structure RawScalarConstraint (α : Type) where
  lhs : RawScalar α
  sense : Sense
  rhs : RawScalar α

/-- Two raw vectors that are compared. -/
structure RawVectorConstraint (α : Type) where
  lhs : RawVector α
  sense : Sense
  rhs : RawVector α

/-- A comparison of two raw expressions of one shape. -/
inductive RawConstraint (α : Type) where
  | scalar (c : RawScalarConstraint α)
  | vector (c : RawVectorConstraint α)

/-- The parts of both sides fit, and the sides of a vector constraint have one length. -/
def RawConstraint.WellShaped
    {α : Type}
    (c : RawConstraint α) :
    Prop :=
  match c with
  | scalar c => c.lhs.WellShaped ∧ c.rhs.WellShaped
  | vector c => c.lhs.WellShaped ∧ c.rhs.WellShaped ∧ c.lhs.length = c.rhs.length

/-- The sides and the sense of a constraint. -/
def ScalarConstraint.raw
    {α : Type}
    (c : ScalarConstraint α) :
    RawScalarConstraint α where
  lhs := c.lhs.raw
  sense := c.sense
  rhs := c.rhs.raw

/-- The sides and the sense of a constraint. -/
def VectorConstraint.raw
    {α : Type}
    (c : VectorConstraint α) :
    RawVectorConstraint α where
  lhs := c.lhs.raw
  sense := c.sense
  rhs := c.rhs.raw

/-- The sides and the sense of a constraint. -/
def Constraint.raw
    {α : Type} :
    Constraint α → RawConstraint α
  | scalar c => .scalar c.raw
  | vector c => .vector c.raw

section Operations

variable {α : Type}

/-- The kind of an expression. -/
def RawScalar.kind : RawScalar α → ExprKind
  | constant _ => .constant
  | var _ => .var
  | affine _ => .affine
  | quadratic _ => .quadratic

/-- The kind of an expression. -/
def RawExpression.kind : RawExpression α → ExprKind
  | scalar e => e.kind
  | vector e => e.kind

/-- The linear row of a constraint, unless one side is quadratic. -/
def RawScalarConstraint.linearRow
    [Zero α]
    [One α]
    [Add α]
    [Mul α]
    [Neg α]
    (c : RawScalarConstraint α) :
    Checked (LinearRow α) := do
  match (← c.lhs.sub c.rhs).toAffine? with
  | some difference =>
    let row ← difference.folded
    return { ids := row.vars.slotIds, coeffs := row.coeffs, sense := c.sense, rhs := -row.constant }
  | none => .error (.refused (.unsupportedOperands .linearRow c.lhs.kind c.rhs.kind))

namespace RawVectorConstraint

/-- A comparison of two vectors, provided that they have one length. -/
def make
    (lhs : RawVector α)
    (sense : Sense)
    (rhs : RawVector α) :
    Checked (RawVectorConstraint α) :=
  if lhs.length ≠ rhs.length then
    .error (.refused (.dimensionMismatch .comparedLengths lhs.length rhs.length))
  else
    .ok { lhs, sense, rhs }

/-- The comparison of one component. -/
def component
    (c : RawVectorConstraint α)
    (i : Nat) :
    Checked (RawScalarConstraint α) := do
  let lhs ← c.lhs.component i
  let rhs ← c.rhs.component i
  return { lhs, sense := c.sense, rhs }

end RawVectorConstraint

/-- The scalar constraints that a constraint stands for. -/
def RawConstraint.rows : RawConstraint α → Checked (List (RawScalarConstraint α))
  | scalar c => .ok [c]
  | vector c => (List.range c.lhs.length).mapM c.component

namespace RawExpression

/-- The comparison of two expressions, where it is defined. -/
def compare
    (lhs : RawExpression α)
    (sense : Sense)
    (rhs : RawExpression α) :
    Checked (RawConstraint α) :=
  match lhs, rhs with
  | scalar l, scalar r => .ok (.scalar { lhs := l, sense, rhs := r })
  | vector l, vector r => (RawVectorConstraint.make l sense r).map .vector
  | vector l, scalar (.constant k) =>
    (RawVectorConstraint.make l sense (.constant (List.replicate l.length k))).map .vector
  | scalar (.constant k), vector r =>
    (RawVectorConstraint.make (.constant (List.replicate r.length k)) sense r).map .vector
  | l, r => .error (.refused (.unsupportedOperands .comparison l.kind r.kind))

variable [Zero α] [One α]

/-- The sum of two expressions, where it is defined. -/
def add
    [Add α] :
    RawExpression α → RawExpression α → Checked (RawExpression α)
  | scalar a, scalar b => (a.add b).map scalar
  | vector a, vector b => (a.add b).map vector
  | vector a, scalar (.constant k) => (a.shift k).map vector
  | scalar (.constant k), vector b => (b.shift k).map vector
  | a, b => .error (.refused (.unsupportedOperands .plus a.kind b.kind))

/-- Multiply an expression by a factor. -/
def scale
    [Mul α]
    (e : RawExpression α)
    (factor : α) :
    Checked (RawExpression α) :=
  match e with
  | scalar e => (e.scale factor).map scalar
  | vector e => .ok (vector (e.scale factor))

end RawExpression

end Operations

section Raw

variable {α : Type}

theorem Expression.wellShaped_raw
    (e : Expression α) :
    e.raw.WellShaped := by
  cases e with
  | scalar e => exact e.wellShaped_raw
  | vector e => exact e.wellShaped_raw

theorem Constraint.wellShaped_raw
    (c : Constraint α) :
    c.raw.WellShaped := by
  cases c with
  | scalar c => exact ⟨c.lhs.wellShaped_raw, c.rhs.wellShaped_raw⟩
  | vector c =>
    refine ⟨c.lhs.wellShaped_raw, c.rhs.wellShaped_raw, ?_⟩
    rw [VectorConstraint.raw, VectorExpr.length_raw, VectorExpr.length_raw, c.sameLength]

theorem ScalarExpr.kind_raw
    (e : ScalarExpr α) :
    e.raw.kind = e.kind := by
  cases e <;> rfl

theorem VectorConstraint.raw_ofSides
    (lhs : VectorExpr α)
    (sense : Sense)
    (rhs : VectorExpr α) :
    RawVectorConstraint.make lhs.raw sense rhs.raw
      =
    Checked.ofResult ((ofSides lhs sense rhs).map raw) := by
  unfold RawVectorConstraint.make ofSides
  rw [VectorExpr.length_raw, VectorExpr.length_raw]
  by_cases h : lhs.length = rhs.length
  · rw [if_neg (not_not_intro h), dif_pos h]
    rfl
  · rw [if_pos h, dif_neg h]
    rfl

theorem VectorConstraint.raw_component
    (c : VectorConstraint α)
    (i : Nat) :
    c.raw.component i = Checked.ofResult ((c.component i).map ScalarConstraint.raw) := by
  unfold RawVectorConstraint.component component
  simp only [raw, VectorExpr.raw_component]
  cases c.lhs.component i with
  | error e => rfl
  | ok lhs =>
    cases c.rhs.component i with
    | error e => rfl
    | ok rhs => rfl

/-- Taking the rows of a constraint is neither stopped nor refused. -/
theorem Constraint.raw_rows
    (c : Constraint α) :
    c.raw.rows = .ok (c.scalarRows.map ScalarConstraint.raw) := by
  cases c with
  | scalar c => rfl
  | vector c =>
    obtain ⟨rows, hrows⟩ := c.exists_components
    have hscalar : scalarRows (.vector c) = rows := by
      simp [scalarRows, Constraint.rows, hrows]
    have hcomponents := mapM_eq_ok_iff.mp hrows
    have hlength : c.raw.lhs.length = c.length := c.lhs.length_raw
    show (List.range c.raw.lhs.length).mapM c.raw.component = _
    rw [hscalar, hlength, mapM_eq_ok_iff]
    have hmap := congrArg
      (List.map fun outcome => Checked.ofResult (outcome.map ScalarConstraint.raw)) hcomponents
    simp only [List.map_map] at hmap ⊢
    refine Eq.trans (List.map_congr_left fun i _ => c.raw_component i) (hmap.trans ?_)
    rfl

/-- A number that is repeated along a vector is read off the length of its raw form. -/
theorem VectorExpr.raw_broadcast
    (k : α)
    (e : VectorExpr α) :
    (broadcast k e.length).raw = .constant (List.replicate e.raw.length k) := by
  rw [e.length_raw]
  rfl

/-- No check of a comparison fails. -/
theorem Expression.raw_compare
    (a : Expression α)
    (sense : Sense)
    (b : Expression α) :
    a.raw.compare sense b.raw = Checked.ofResult ((a.compare sense b).map Constraint.raw) := by
  have hvector (l r : VectorExpr α) :
      (RawVectorConstraint.make l.raw sense r.raw).map RawConstraint.vector
        =
      Checked.ofResult
        (((VectorConstraint.ofSides l sense r).map Constraint.vector).map Constraint.raw) := by
    rw [VectorConstraint.raw_ofSides]
    cases VectorConstraint.ofSides l sense r <;> rfl
  cases a with
  | scalar a =>
    cases b with
    | scalar b => rfl
    | vector b =>
      cases a with
      | constant k =>
        refine Eq.trans ?_ (hvector (.broadcast k b.length) b)
        rw [VectorExpr.raw_broadcast]
        rfl
      | _ => cases b <;> rfl
  | vector a =>
    cases b with
    | scalar b =>
      cases b with
      | constant k =>
        refine Eq.trans ?_ (hvector a (.broadcast k a.length))
        rw [VectorExpr.raw_broadcast]
        rfl
      | _ => cases a <;> rfl
    | vector b => exact hvector a b

variable [Zero α] [One α]

/-- No check of a sum fails. -/
theorem Expression.raw_add
    [Add α]
    (a b : Expression α) :
    a.raw.add b.raw = Checked.ofResult ((a.add b).map raw) := by
  cases a with
  | scalar a =>
    cases b with
    | scalar b => exact congrArg (Except.map RawExpression.scalar) (a.raw_add b)
    | vector b =>
      cases a with
      | constant k => exact congrArg (Except.map RawExpression.vector) (b.raw_shift k)
      | _ => cases b <;> rfl
  | vector a =>
    cases b with
    | scalar b =>
      cases b with
      | constant k => exact congrArg (Except.map RawExpression.vector) (a.raw_shift k)
      | _ => cases a <;> rfl
    | vector b =>
      have hvector :
          (Checked.ofResult ((a.add b).map VectorExpr.raw)).map RawExpression.vector
            =
          Checked.ofResult (((a.add b).map vector).map raw) := by
        cases a.add b <;> rfl
      exact (congrArg (Except.map RawExpression.vector) (a.raw_add b)).trans hvector

theorem Expression.raw_scale
    [Mul α]
    (e : Expression α)
    (factor : α) :
    e.raw.scale factor = .ok (e.scale factor).raw := by
  cases e with
  | scalar e => exact congrArg (Except.map RawExpression.scalar) (e.raw_scale factor)
  | vector e => exact congrArg (Except.ok ∘ RawExpression.vector) (e.raw_scale factor)

/-- No check of a linear row fails. -/
theorem ScalarConstraint.raw_linearRow
    [Add α]
    [Mul α]
    [Neg α]
    (c : ScalarConstraint α) :
    c.raw.linearRow = Checked.ofResult c.linearRow := by
  unfold RawScalarConstraint.linearRow linearRow
  simp only [raw, ScalarExpr.raw_sub, Checked.ok_bind, ScalarExpr.raw_toAffine?]
  cases (c.lhs.sub c.rhs).toAffine? with
  | none =>
    simp only [Option.map_none, ScalarExpr.kind_raw]
    rfl
  | some difference =>
    simp only [Option.map_some, Affine.raw_folded, Checked.ok_bind]
    rfl

end Raw

end MathProgram

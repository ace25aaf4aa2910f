import MathProgram.Proofs.Checked.Value

/-!
# Calls of the algebra

A call makes a value from data that the program supplies, or works on values
that earlier calls handed out.  What data a program supplies is arbitrary; in
particular it may have been read off earlier values.

**Two readings.**  Every call is read twice: by the operations of the library on
its values, and by the checked operations on raw values.  A call whose operands
do not have the kinds it works on cannot be written, and is answered by nothing.

**Results.**
* `Maker.value_raw`, `UnaryCall.answer_raw`, `BinaryCall.answer_raw`, `Instr.answer_raw`:
  on raw forms of values of the library, the checked reading gives the raw form
  of what the library gives.
-/

namespace MathProgram

/-- Data from which a value can be made without any operand. -/
inductive Maker (α : Type) where
  | constant (k : α)
  | var (v : Variable)
  | constants (ks : List α)
  | broadcast (k : α) (length : Nat)
  | vars (slots : Basis)
  | affine (vars : Basis) (coeffs : List α) (constant : α)
  | affineOfConstant (k : α)
  | affineOfVariable (v : Variable)
  | quadratic (quad : DenseMatrix α) (linear : List α) (constant : α) (vars : Basis)
  | quadraticOfMatrix (quad : DenseMatrix α) (vars : Basis)
  | affineVector (matrix : DenseMatrix α) (vars : Basis) (offset : List α)
  | sumVars (vars : Basis)
  | sumRow (grid : List Basis) (row : Nat)
  | sumColumn (grid : List Basis) (column : Nat)
  | dot (vars : Basis) (coeffs : List α)

/-- A call with one operand. -/
inductive UnaryCall (α : Type) where
  | scale (factor : α)
  | neg
  | shift (k : α)
  | reindexAffine (target : Basis)
  | reindexQuadratic (target : Basis)
  | reindexAffineVector (target : Basis)
  | foldAffine
  | foldQuadratic
  | affinePart
  | quadraticOfAffine
  | toAffine
  | toQuadratic
  | toAffineVector
  | component (i : Nat)
  | coeffs
  | sides
  | rows
  | linearRow

/-- A call with two operands. -/
inductive BinaryCall where
  | add
  | sub
  | addAffine
  | addQuadratic
  | addAffineToQuadratic
  | addAffineVector
  | compare (sense : Sense)

/-- A call of the algebra; operands are given by their places among the values so far. -/
inductive Instr (α : Type) where
  | make (m : Maker α)
  | unary (f : UnaryCall α) (a : Nat)
  | binary (f : BinaryCall) (a b : Nat)
  | sum (places : List Nat)
  | sumFromConstant (places : List Nat)

section Answers

variable {α : Type} [Zero α] [One α] [Add α] [Mul α] [Neg α]

/-- The value that the library makes. -/
def Maker.value : Maker α → Checked (Value α)
  | constant k => .ok (.ofScalar (.constant k))
  | var v => .ok (.ofScalar (.var v))
  | constants ks => .ok (.ofVector (.constant ks))
  | broadcast k length => .ok (.ofVector (.broadcast k length))
  | vars slots => .ok (.ofVector (.vars slots))
  | affine slots coeffs k =>
    (Checked.ofResult (Affine.ofParts slots coeffs k)).map fun e => .ofScalar (.affine e)
  | affineOfConstant k => .ok (.ofScalar (.affine (.ofConstant k)))
  | affineOfVariable v => .ok (.ofScalar (.affine (.ofVariable v)))
  | quadratic quad linear k slots =>
    (Checked.ofResult (Quadratic.ofParts quad linear k slots)).map fun e => .ofScalar (.quadratic e)
  | quadraticOfMatrix quad slots =>
    (Checked.ofResult (Quadratic.ofQuad quad slots)).map fun e => .ofScalar (.quadratic e)
  | affineVector matrix slots offset =>
    (Checked.ofResult (AffineVector.ofParts matrix slots offset)).map fun e => .ofVector (.affine e)
  | sumVars slots => .ok (.ofScalar (.sumVars slots))
  | sumRow grid row => (Checked.ofResult (ScalarExpr.sumRow grid row)).map .ofScalar
  | sumColumn grid column => (Checked.ofResult (ScalarExpr.sumColumn grid column)).map .ofScalar
  | dot slots coeffs =>
    ((ScalarExpr.dot slots coeffs).mapError fun lengths => .panic (.dot lengths)).map .ofScalar

/-- The value that the checked operations make. -/
def Maker.rawValue : Maker α → Checked (RawValue α)
  | constant k => .ok (.ofScalar (.constant k))
  | var v => .ok (.ofScalar (.var v))
  | constants ks => .ok (.ofVector (.constant ks))
  | broadcast k length => .ok (.ofVector (.constant (List.replicate length k)))
  | vars slots => .ok (.ofVector (.vars slots))
  | affine slots coeffs k =>
    (RawAffine.make slots coeffs k).map fun e => .ofScalar (.affine e)
  | affineOfConstant k => .ok (.ofScalar (.affine (Affine.ofConstant k).raw))
  | affineOfVariable v => .ok (.ofScalar (.affine (Affine.ofVariable v).raw))
  | quadratic quad linear k slots =>
    (RawQuadratic.make quad linear k slots).map fun e => .ofScalar (.quadratic e)
  | quadraticOfMatrix quad slots =>
    (RawQuadratic.make quad (List.replicate slots.length 0) 0 slots).map fun e =>
      .ofScalar (.quadratic e)
  | affineVector matrix slots offset =>
    (RawAffineVector.make matrix slots offset).map fun e => .ofVector (.affine e)
  | sumVars slots => (RawScalar.sumVars slots).map .ofScalar
  | sumRow grid row => (RawScalar.sumRow grid row).map .ofScalar
  | sumColumn grid column => (RawScalar.sumColumn grid column).map .ofScalar
  | dot slots coeffs => (RawScalar.dot slots coeffs).map .ofScalar

/-- What the library gives to a call with one operand. -/
def UnaryCall.answer
    (f : UnaryCall α)
    (v : Value α) :
    Checked (Answer α (Value α)) :=
  match f with
  | scale factor => withKind v.expression? fun x => .ok (.one (.expression (x.scale factor)))
  | neg => withKind v.scalar? fun x => .ok (.one (.ofScalar x.neg))
  | shift k => withKind v.vector? fun x => .ok (.one (.ofVector (x.shift k)))
  | reindexAffine target =>
    withKind v.affine? fun x =>
      (Checked.ofResult (x.reindex target)).map fun e => .one (.ofScalar (.affine e))
  | reindexQuadratic target =>
    withKind v.quadratic? fun x =>
      (Checked.ofResult (x.reindex target)).map fun e => .one (.ofScalar (.quadratic e))
  | reindexAffineVector target =>
    withKind v.affineVector? fun x =>
      (Checked.ofResult (x.reindex target)).map fun e => .one (.ofVector (.affine e))
  | foldAffine => withKind v.affine? fun x => .ok (.one (.ofScalar (.affine x.folded)))
  | foldQuadratic => withKind v.quadratic? fun x => .ok (.one (.ofScalar (.quadratic x.folded)))
  | affinePart => withKind v.quadratic? fun x => .ok (.one (.ofScalar (.affine x.affinePart)))
  | quadraticOfAffine =>
    withKind v.affine? fun x => .ok (.one (.ofScalar (.quadratic (.ofAffine x))))
  | toAffine =>
    withKind v.scalar? fun x =>
      withKind x.toAffine? fun e => .ok (.one (.ofScalar (.affine e)))
  | toQuadratic => withKind v.scalar? fun x => .ok (.one (.ofScalar (.quadratic x.toQuadratic)))
  | toAffineVector => withKind v.vector? fun x => .ok (.one (.ofVector (.affine x.toAffine)))
  | component i =>
    withKind v.vector? fun x => (Checked.ofResult (x.component i)).map fun e => .one (.ofScalar e)
  | coeffs => withKind v.scalar? fun x => .ok (.numbers x.coeffs)
  | sides =>
    withKind v.constraint? fun
      | .scalar c => .ok (.values [.ofScalar c.lhs, .ofScalar c.rhs])
      | .vector c => .ok (.values [.ofVector c.lhs, .ofVector c.rhs])
  | rows =>
    withKind v.constraint? fun c =>
      (Checked.ofResult c.rows).map fun rows =>
        .values (rows.map fun row => .constraint (.scalar row))
  | linearRow => withKind v.scalarConstraint? fun c => (Checked.ofResult c.linearRow).map .row

/-- What the checked operations give to a call with one operand. -/
def UnaryCall.rawAnswer
    (f : UnaryCall α)
    (v : RawValue α) :
    Checked (Answer α (RawValue α)) :=
  match f with
  | scale factor =>
    withKind v.expression? fun x => (x.scale factor).map fun e => .one (.expression e)
  | neg => withKind v.scalar? fun x => (x.scale (-1)).map fun e => .one (.ofScalar e)
  | shift k => withKind v.vector? fun x => (x.shift k).map fun e => .one (.ofVector e)
  | reindexAffine target =>
    withKind v.affine? fun x => (x.reindex target).map fun e => .one (.ofScalar (.affine e))
  | reindexQuadratic target =>
    withKind v.quadratic? fun x => (x.reindex target).map fun e => .one (.ofScalar (.quadratic e))
  | reindexAffineVector target =>
    withKind v.affineVector? fun x => (x.reindex target).map fun e => .one (.ofVector (.affine e))
  | foldAffine => withKind v.affine? fun x => x.folded.map fun e => .one (.ofScalar (.affine e))
  | foldQuadratic =>
    withKind v.quadratic? fun x => x.folded.map fun e => .one (.ofScalar (.quadratic e))
  | affinePart =>
    withKind v.quadratic? fun x => x.affinePart.map fun e => .one (.ofScalar (.affine e))
  | quadraticOfAffine =>
    withKind v.affine? fun x => .ok (.one (.ofScalar (.quadratic (.ofAffine x))))
  | toAffine =>
    withKind v.scalar? fun x =>
      withKind x.toAffine? fun e => .ok (.one (.ofScalar (.affine e)))
  | toQuadratic => withKind v.scalar? fun x => .ok (.one (.ofScalar (.quadratic x.toQuadratic)))
  | toAffineVector => withKind v.vector? fun x => .ok (.one (.ofVector (.affine x.toAffine)))
  | component i => withKind v.vector? fun x => (x.component i).map fun e => .one (.ofScalar e)
  | coeffs => withKind v.scalar? fun x => x.coeffs.map .numbers
  | sides =>
    withKind v.constraint? fun
      | .scalar c => .ok (.values [.ofScalar c.lhs, .ofScalar c.rhs])
      | .vector c => .ok (.values [.ofVector c.lhs, .ofVector c.rhs])
  | rows =>
    withKind v.constraint? fun c =>
      c.rows.map fun rows => .values (rows.map fun row => .constraint (.scalar row))
  | linearRow => withKind v.scalarConstraint? fun c => c.linearRow.map .row

/-- What the library gives to a call with two operands. -/
def BinaryCall.answer
    (f : BinaryCall)
    (v w : Value α) :
    Checked (Answer α (Value α)) :=
  match f with
  | add =>
    withKind v.expression? fun x => withKind w.expression? fun y =>
      (Checked.ofResult (x.add y)).map fun e => .one (.expression e)
  | sub =>
    withKind v.scalar? fun x => withKind w.scalar? fun y => .ok (.one (.ofScalar (x.sub y)))
  | addAffine =>
    withKind v.affine? fun x => withKind w.affine? fun y =>
      .ok (.one (.ofScalar (.affine (x.add y))))
  | addQuadratic =>
    withKind v.quadratic? fun x => withKind w.quadratic? fun y =>
      .ok (.one (.ofScalar (.quadratic (x.add y))))
  | addAffineToQuadratic =>
    withKind v.quadratic? fun x => withKind w.affine? fun y =>
      .ok (.one (.ofScalar (.quadratic (x.addAffine y))))
  | addAffineVector =>
    withKind v.affineVector? fun x => withKind w.affineVector? fun y =>
      (Checked.ofResult (x.add y)).map fun e => .one (.ofVector (.affine e))
  | compare sense =>
    withKind v.expression? fun x => withKind w.expression? fun y =>
      (Checked.ofResult (x.compare sense y)).map fun c => .one (.constraint c)

/-- What the checked operations give to a call with two operands. -/
def BinaryCall.rawAnswer
    (f : BinaryCall)
    (v w : RawValue α) :
    Checked (Answer α (RawValue α)) :=
  match f with
  | add =>
    withKind v.expression? fun x => withKind w.expression? fun y =>
      (x.add y).map fun e => .one (.expression e)
  | sub =>
    withKind v.scalar? fun x => withKind w.scalar? fun y =>
      (x.sub y).map fun e => .one (.ofScalar e)
  | addAffine =>
    withKind v.affine? fun x => withKind w.affine? fun y =>
      (x.add y).map fun e => .one (.ofScalar (.affine e))
  | addQuadratic =>
    withKind v.quadratic? fun x => withKind w.quadratic? fun y =>
      (x.add y).map fun e => .one (.ofScalar (.quadratic e))
  | addAffineToQuadratic =>
    withKind v.quadratic? fun x => withKind w.affine? fun y =>
      (x.add (.ofAffine y)).map fun e => .one (.ofScalar (.quadratic e))
  | addAffineVector =>
    withKind v.affineVector? fun x => withKind w.affineVector? fun y =>
      (x.add y).map fun e => .one (.ofVector (.affine e))
  | compare sense =>
    withKind v.expression? fun x => withKind w.expression? fun y =>
      (x.compare sense y).map fun c => .one (.constraint c)

/-- What the library gives to a call. -/
def Instr.answer
    (values : List (Value α)) :
    Instr α → Checked (Answer α (Value α))
  | make m => m.value.map .one
  | unary f a => withKind values[a]? f.answer
  | binary f a b => withKind values[a]? fun v => withKind values[b]? (f.answer v)
  | sum places =>
    withKind (operands? values Value.scalar? places) fun items =>
      .ok (.one (.ofScalar (.sum items)))
  | sumFromConstant places =>
    withKind (operands? values Value.scalar? places) fun items =>
      .ok (.one (.ofScalar (.sumFromConstant items)))

/-- What the checked operations give to a call. -/
def Instr.rawAnswer
    (values : List (RawValue α)) :
    Instr α → Checked (Answer α (RawValue α))
  | make m => m.rawValue.map .one
  | unary f a => withKind values[a]? f.rawAnswer
  | binary f a b => withKind values[a]? fun v => withKind values[b]? (f.rawAnswer v)
  | sum places =>
    withKind (operands? values RawValue.scalar? places) fun items =>
      ((ScalarExpr.empty : ScalarExpr α).raw.addAll items).map fun e => .one (.ofScalar e)
  | sumFromConstant places =>
    withKind (operands? values RawValue.scalar? places) fun items =>
      (RawScalar.addAll (.constant 0) items).map fun e => .one (.ofScalar e)

end Answers

section Raw

variable {α β γ δ ε : Type}

/-- A raw operand is gone on with like the operand it is the raw form of. -/
theorem withKind_raw
    {raw : β → γ}
    {operand : Option β}
    {rawOperand : Option γ}
    (hoperand : rawOperand = operand.map raw)
    {next : β → Checked (Answer α (Value α))}
    {rawNext : γ → Checked (Answer α (RawValue α))}
    (hnext : ∀ x, rawNext (raw x) = (next x).map (Answer.map Value.raw)) :
    withKind rawOperand rawNext = (withKind operand next).map (Answer.map Value.raw) := by
  subst hoperand
  cases operand with
  | none => rfl
  | some x => exact hnext x

/-- A result that may be refused is handed out in raw form. -/
theorem map_ofResult_raw
    {raw : β → γ}
    {give : β → δ}
    {rawGive : γ → ε}
    {rawOut : δ → ε}
    (h : ∀ x, rawGive (raw x) = rawOut (give x))
    (r : Except ExprError β) :
    (Checked.ofResult (r.map raw)).map rawGive
      =
    ((Checked.ofResult r).map give).map rawOut := by
  cases r with
  | error cause => rfl
  | ok x => exact congrArg Except.ok (h x)

theorem operands?_raw
    {raw : β → γ}
    {kind? : Value α → Option β}
    {rawKind? : RawValue α → Option γ}
    (hkind : ∀ v, rawKind? v.raw = (kind? v).map raw)
    (values : List (Value α))
    (places : List Nat) :
    operands? (values.map Value.raw) rawKind? places
      =
    (operands? values kind? places).map (List.map raw) := by
  induction places with
  | nil =>
    rfl
  | cons a places ih =>
    unfold operands?
    rw [List.getElem?_map, ih]
    cases values[a]? with
    | none => rfl
    | some v =>
      simp only [Option.map_some, Option.bind_some, hkind]
      cases kind? v with
      | none => rfl
      | some x => cases operands? values kind? places <;> rfl

variable [Zero α] [One α] [Add α]

/-- The checked operations make the raw form of what the library makes. -/
theorem Maker.value_raw
    (m : Maker α) :
    m.rawValue = m.value.map Value.raw := by
  cases m with
  | affine slots coeffs k =>
    simp only [rawValue, value, Affine.raw_make]
    refine map_ofResult_raw ?_ (Affine.ofParts slots coeffs k)
    intro e
    rfl
  | quadratic quad linear k slots =>
    simp only [rawValue, value, Quadratic.raw_make]
    refine map_ofResult_raw ?_ (Quadratic.ofParts quad linear k slots)
    intro e
    rfl
  | quadraticOfMatrix quad slots =>
    simp only [rawValue, value, Quadratic.raw_make]
    refine map_ofResult_raw ?_ (Quadratic.ofQuad quad slots)
    intro e
    rfl
  | affineVector matrix slots offset =>
    simp only [rawValue, value, AffineVector.raw_make]
    refine map_ofResult_raw ?_ (AffineVector.ofParts matrix slots offset)
    intro e
    rfl
  | sumVars slots =>
    exact congrArg (Except.map RawValue.ofScalar) (ScalarExpr.raw_sumVars slots)
  | sumRow grid row =>
    simp only [rawValue, value, ScalarExpr.raw_sumRow]
    refine map_ofResult_raw ?_ (ScalarExpr.sumRow grid row)
    intro e
    rfl
  | sumColumn grid column =>
    simp only [rawValue, value, ScalarExpr.raw_sumColumn]
    refine map_ofResult_raw ?_ (ScalarExpr.sumColumn grid column)
    intro e
    rfl
  | dot slots coeffs =>
    simp only [rawValue, value, ScalarExpr.raw_dot]
    cases ScalarExpr.dot slots coeffs <;> rfl
  | _ => rfl

variable [Mul α] [Neg α]

theorem UnaryCall.answer_raw
    (f : UnaryCall α)
    (v : Value α) :
    f.rawAnswer v.raw = (f.answer v).map (Answer.map Value.raw) := by
  cases f with
  | scale factor =>
    refine withKind_raw (expression?_raw v) ?_
    intro x
    rw [x.raw_scale]
    rfl
  | neg =>
    refine withKind_raw (scalar?_raw v) ?_
    intro x
    rw [x.raw_scale]
    rfl
  | shift k =>
    refine withKind_raw (vector?_raw v) ?_
    intro x
    rw [x.raw_shift]
    rfl
  | reindexAffine target =>
    refine withKind_raw (affine?_raw v) ?_
    intro x
    rw [x.raw_reindex]
    refine map_ofResult_raw ?_ (x.reindex target)
    intro e
    rfl
  | reindexQuadratic target =>
    refine withKind_raw (quadratic?_raw v) ?_
    intro x
    rw [x.raw_reindex]
    refine map_ofResult_raw ?_ (x.reindex target)
    intro e
    rfl
  | reindexAffineVector target =>
    refine withKind_raw (affineVector?_raw v) ?_
    intro x
    rw [x.raw_reindex]
    refine map_ofResult_raw ?_ (x.reindex target)
    intro e
    rfl
  | foldAffine =>
    refine withKind_raw (affine?_raw v) ?_
    intro x
    rw [x.raw_folded]
    rfl
  | foldQuadratic =>
    refine withKind_raw (quadratic?_raw v) ?_
    intro x
    rw [x.raw_folded]
    rfl
  | affinePart =>
    refine withKind_raw (quadratic?_raw v) ?_
    intro x
    rw [x.raw_affinePart]
    rfl
  | quadraticOfAffine =>
    exact withKind_raw (affine?_raw v) fun x => rfl
  | toAffine =>
    refine withKind_raw (scalar?_raw v) ?_
    intro x
    exact withKind_raw x.raw_toAffine? fun e => rfl
  | toQuadratic =>
    refine withKind_raw (scalar?_raw v) ?_
    intro x
    rw [x.raw_toQuadratic]
    rfl
  | toAffineVector =>
    refine withKind_raw (vector?_raw v) ?_
    intro x
    rw [x.raw_toAffine]
    rfl
  | component i =>
    refine withKind_raw (vector?_raw v) ?_
    intro x
    rw [x.raw_component]
    refine map_ofResult_raw ?_ (x.component i)
    intro e
    rfl
  | coeffs =>
    refine withKind_raw (scalar?_raw v) ?_
    intro x
    rw [x.raw_coeffs]
    rfl
  | sides =>
    refine withKind_raw (constraint?_raw v) ?_
    intro c
    cases c <;> rfl
  | rows =>
    refine withKind_raw (constraint?_raw v) ?_
    intro c
    rw [c.raw_rows, c.rows_eq]
    simp [Except.map, Checked.ofResult_ok, Answer.map, Value.raw, Constraint.raw]
  | linearRow =>
    refine withKind_raw (scalarConstraint?_raw v) ?_
    intro c
    rw [c.raw_linearRow]
    cases c.linearRow <;> rfl

theorem BinaryCall.answer_raw
    (f : BinaryCall)
    (v w : Value α) :
    f.rawAnswer v.raw w.raw = (f.answer v w).map (Answer.map Value.raw) := by
  cases f with
  | add =>
    refine withKind_raw (expression?_raw v) fun x => ?_
    refine withKind_raw (expression?_raw w) fun y => ?_
    rw [x.raw_add]
    refine map_ofResult_raw ?_ (x.add y)
    intro e
    rfl
  | sub =>
    refine withKind_raw (scalar?_raw v) fun x => ?_
    refine withKind_raw (scalar?_raw w) fun y => ?_
    rw [x.raw_sub]
    rfl
  | addAffine =>
    refine withKind_raw (affine?_raw v) fun x => ?_
    refine withKind_raw (affine?_raw w) fun y => ?_
    rw [x.raw_add]
    rfl
  | addQuadratic =>
    refine withKind_raw (quadratic?_raw v) fun x => ?_
    refine withKind_raw (quadratic?_raw w) fun y => ?_
    rw [x.raw_add]
    rfl
  | addAffineToQuadratic =>
    refine withKind_raw (quadratic?_raw v) fun x => ?_
    refine withKind_raw (affine?_raw w) fun y => ?_
    exact congrArg (Except.map _) (x.raw_add (.ofAffine y))
  | addAffineVector =>
    refine withKind_raw (affineVector?_raw v) fun x => ?_
    refine withKind_raw (affineVector?_raw w) fun y => ?_
    rw [x.raw_add]
    refine map_ofResult_raw ?_ (x.add y)
    intro e
    rfl
  | compare sense =>
    refine withKind_raw (expression?_raw v) fun x => ?_
    refine withKind_raw (expression?_raw w) fun y => ?_
    rw [x.raw_compare]
    refine map_ofResult_raw ?_ (x.compare sense y)
    intro e
    rfl

/-- The checked operations answer with the raw form of what the library answers. -/
theorem Instr.answer_raw
    (instr : Instr α)
    (values : List (Value α)) :
    instr.rawAnswer (values.map Value.raw) = (instr.answer values).map (Answer.map Value.raw) := by
  have hget (a : Nat) : (values.map Value.raw)[a]? = values[a]?.map Value.raw :=
    List.getElem?_map
  cases instr with
  | make m =>
    simp only [rawAnswer, answer, m.value_raw]
    cases m.value <;> rfl
  | unary f a =>
    exact withKind_raw (hget a) f.answer_raw
  | binary f a b =>
    exact withKind_raw (hget a) fun v => withKind_raw (hget b) fun w => f.answer_raw v w
  | sum places =>
    refine withKind_raw (operands?_raw scalar?_raw values places) fun items => ?_
    exact congrArg (Except.map _) (ScalarExpr.raw_addAll .empty items)
  | sumFromConstant places =>
    refine withKind_raw (operands?_raw scalar?_raw values places) fun items => ?_
    exact congrArg (Except.map _) (ScalarExpr.raw_addAll (.constant 0) items)

end Raw

end MathProgram

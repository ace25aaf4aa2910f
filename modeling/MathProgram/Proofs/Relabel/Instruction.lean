import MathProgram.Proofs.Checked.Program
import MathProgram.Proofs.Relabel.Constraint

/-!
# Calls of the algebra under a faithful relabelling

Handles enter a program in the data of its makers and in the bases that expressions
are moved to.  They leave it in the values and rows that calls are answered by, and
ids leave it in rows and in refusals.

**Result.**  `Instr.answer_relabel`: a call on relabelled data and values has the
relabelled answer, whether it is carried out, refused or panics.
-/

namespace MathProgram

section Instances

variable {α V : Type}

instance : Labelled Fault where
  relabel ρ
    | .panic cause => .panic cause
    | .refused cause => .refused (relabel ρ cause)
  handles _ := []
  bareIds
    | .panic _ => []
    | .refused cause => bareIds cause
  relabel_eq_iff := by
    rintro ρ σ (cause | cause)
    · simp
    · simp only [Fault.refused.injEq, relabel_eq_iff]
      rfl

instance : Labelled (Value α) where
  relabel ρ
    | .expression e => .expression (relabel ρ e)
    | .constraint c => .constraint (relabel ρ c)
  handles
    | .expression e => handles e
    | .constraint c => handles c
  bareIds _ := []
  relabel_eq_iff := by
    rintro ρ σ (e | c)
    · simp only [Value.expression.injEq, relabel_eq_iff]
      rfl
    · simp only [Value.constraint.injEq, relabel_eq_iff]
      cases c <;> rfl

instance [Labelled V] : Labelled (Answer α V) where
  relabel ρ
    | .values vs => .values (relabel ρ vs)
    | .numbers xs => .numbers xs
    | .row r => .row (relabel ρ r)
    | .nothing => .nothing
  handles
    | .values vs => handles vs
    | _ => []
  bareIds
    | .values vs => bareIds vs
    | .row r => bareIds r
    | _ => []
  relabel_eq_iff := by
    rintro ρ σ (vs | xs | r | _)
    · simp only [Answer.values.injEq, relabel_eq_iff]
    · simp
    · simp only [Answer.row.injEq, relabel_eq_iff]
      rfl
    · simp

instance : Labelled (Maker α) where
  relabel ρ
    | .constant k => .constant k
    | .var v => .var (ρ.handle v)
    | .constants ks => .constants ks
    | .broadcast k length => .broadcast k length
    | .vars slots => .vars (slots.map ρ.handle)
    | .affine vars coeffs k => .affine (vars.map ρ.handle) coeffs k
    | .affineOfConstant k => .affineOfConstant k
    | .affineOfVariable v => .affineOfVariable (ρ.handle v)
    | .quadratic quad linear k vars => .quadratic quad linear k (vars.map ρ.handle)
    | .quadraticOfMatrix quad vars => .quadraticOfMatrix quad (vars.map ρ.handle)
    | .affineVector matrix vars offset => .affineVector matrix (vars.map ρ.handle) offset
    | .sumVars vars => .sumVars (vars.map ρ.handle)
    | .sumRow grid row => .sumRow (grid.map (List.map ρ.handle)) row
    | .sumColumn grid column => .sumColumn (grid.map (List.map ρ.handle)) column
    | .dot vars coeffs => .dot (vars.map ρ.handle) coeffs
  handles
    | .var v | .affineOfVariable v => [v]
    | .vars vars | .affine vars _ _ | .quadratic _ _ _ vars | .quadraticOfMatrix _ vars
    | .affineVector _ vars _ | .sumVars vars | .dot vars _ => vars
    | .sumRow grid _ | .sumColumn grid _ => grid.flatten
    | .constant _ | .constants _ | .broadcast _ _ | .affineOfConstant _ => []
  bareIds _ := []
  relabel_eq_iff := by
    intro ρ σ m
    have hgrid (grid : List Basis) :
        grid.map (List.map ρ.handle) = grid.map (List.map σ.handle)
          ↔ ∀ v ∈ grid.flatten, ρ.handle v = σ.handle v := by
      simp only [List.map_inj_left, List.forall_mem_flatten]
    cases m with
    | sumRow grid row => simp [hgrid]
    | sumColumn grid column => simp [hgrid]
    | _ => simp

instance : Labelled (UnaryCall α) where
  relabel ρ
    | .reindexAffine target => .reindexAffine (target.map ρ.handle)
    | .reindexQuadratic target => .reindexQuadratic (target.map ρ.handle)
    | .reindexAffineVector target => .reindexAffineVector (target.map ρ.handle)
    | call => call
  handles
    | .reindexAffine target | .reindexQuadratic target | .reindexAffineVector target => target
    | _ => []
  bareIds _ := []
  relabel_eq_iff := by
    intro ρ σ call
    cases call <;> simp

instance : Labelled (Instr α) where
  relabel ρ
    | .make m => .make (relabel ρ m)
    | .unary f a => .unary (relabel ρ f) a
    | instr => instr
  handles
    | .make m => handles m
    | .unary f _ => handles f
    | _ => []
  bareIds _ := []
  relabel_eq_iff := by
    rintro ρ σ (m | ⟨f, a⟩ | _ | _ | _)
    · simp only [Instr.make.injEq, relabel_eq_iff]
      rfl
    · simp only [Instr.unary.injEq, relabel_eq_iff, and_true]
      rfl
    all_goals simp

end Instances

section Kinds

variable {α : Type} (ρ : Relabelling) (v : Value α)

theorem expression?_relabel :
    (relabel ρ v).expression? = v.expression?.map (relabel ρ) := by
  cases v <;> rfl

theorem scalar?_relabel :
    (relabel ρ v).scalar? = v.scalar?.map (relabel ρ) := by
  rcases v with (e | e) | c <;> rfl

theorem affine?_relabel :
    (relabel ρ v).affine? = v.affine?.map (relabel ρ) := by
  rcases v with ((k | w | e | e) | e) | c <;> rfl

theorem quadratic?_relabel :
    (relabel ρ v).quadratic? = v.quadratic?.map (relabel ρ) := by
  rcases v with ((k | w | e | e) | e) | c <;> rfl

theorem vector?_relabel :
    (relabel ρ v).vector? = v.vector?.map (relabel ρ) := by
  rcases v with (e | e) | c <;> rfl

theorem affineVector?_relabel :
    (relabel ρ v).affineVector? = v.affineVector?.map (relabel ρ) := by
  rcases v with (e | (ks | ws | e)) | c <;> rfl

theorem constraint?_relabel :
    (relabel ρ v).constraint? = v.constraint?.map (relabel ρ) := by
  cases v <;> rfl

theorem scalarConstraint?_relabel :
    (relabel ρ v).scalarConstraint? = v.scalarConstraint?.map (relabel ρ) := by
  rcases v with e | (c | c) <;> rfl

end Kinds

section Answers

variable {α β : Type} {ρ : Relabelling}

theorem ofResult_relabel
    [Labelled β]
    (result : Except ExprError β) :
    Checked.ofResult (relabel ρ result) = relabel ρ (Checked.ofResult result) := by
  cases result <;> rfl

/-- A result that may be refused is handed out relabelled. -/
theorem map_ofResult_relabel
    {γ : Type}
    [Labelled β]
    [Labelled γ]
    {give : β → γ}
    (hgive : ∀ b, give (relabel ρ b) = relabel ρ (give b))
    {relabelled result : Except ExprError β}
    (hresult : relabelled = relabel ρ result) :
    (Checked.ofResult relabelled).map give = relabel ρ ((Checked.ofResult result).map give) := by
  rw [hresult, ofResult_relabel]
  exact map_relabel give hgive _

/-- A relabelled operand is gone on with like the operand. -/
theorem withKind_relabel
    [Labelled β]
    {relabelled operand : Option β}
    (hoperand : relabelled = operand.map (relabel ρ))
    {relabelledNext next : β → Checked (Answer α (Value α))}
    (hnext : ∀ b, relabelledNext (relabel ρ b) = relabel ρ (next b)) :
    withKind relabelled relabelledNext = relabel ρ (withKind operand next) := by
  subst hoperand
  cases operand with
  | none => rfl
  | some b => exact hnext b

theorem operands?_relabel
    [Labelled β]
    {kind? : Value α → Option β}
    (hkind : ∀ v, kind? (relabel ρ v) = (kind? v).map (relabel ρ))
    (values : List (Value α))
    (places : List Nat) :
    operands? (values.map (relabel ρ)) kind? places
      =
    (operands? values kind? places).map (relabel ρ) := by
  induction places with
  | nil =>
    rfl
  | cons a places ih =>
    unfold operands?
    rw [List.getElem?_map, ih]
    cases values[a]? with
    | none => rfl
    | some v =>
      simp only [Option.map_some, Option.bind_some, hkind]
      cases kind? v with
      | none => rfl
      | some x => cases operands? values kind? places <;> rfl

variable [Zero α] [One α] [Add α] (hρ : ρ.Faithful)

include hρ

theorem Maker.value_relabel
    (m : Maker α) :
    (relabel ρ m).value = relabel ρ m.value := by
  cases m with
  | affine vars coeffs k =>
    refine map_ofResult_relabel ?_ (Affine.ofParts_relabel vars coeffs k)
    exact fun _ => rfl
  | quadratic quad linear k vars =>
    refine map_ofResult_relabel ?_ (Quadratic.ofParts_relabel quad linear k vars)
    exact fun _ => rfl
  | quadraticOfMatrix quad vars =>
    refine map_ofResult_relabel ?_ (Quadratic.ofQuad_relabel quad vars)
    exact fun _ => rfl
  | affineVector matrix vars offset =>
    refine map_ofResult_relabel ?_ (AffineVector.ofParts_relabel matrix vars offset)
    exact fun _ => rfl
  | sumVars vars =>
    exact congrArg (fun e => Except.ok (Value.ofScalar e)) (ScalarExpr.sumVars_relabel hρ vars)
  | sumRow grid row =>
    refine map_ofResult_relabel ?_ (ScalarExpr.sumRow_relabel hρ grid row)
    exact fun _ => rfl
  | sumColumn grid column =>
    refine map_ofResult_relabel ?_ (ScalarExpr.sumColumn_relabel hρ grid column)
    exact fun _ => rfl
  | dot vars coeffs =>
    have hdot := ScalarExpr.dot_relabel hρ vars coeffs
    refine (congrArg (fun r => (Except.mapError _ r).map Value.ofScalar) hdot).trans ?_
    simp only [value]
    cases ScalarExpr.dot vars coeffs <;> rfl
  | _ => rfl

variable [Mul α] [Neg α]

theorem UnaryCall.answer_relabel
    (f : UnaryCall α)
    (v : Value α) :
    (relabel ρ f).answer (relabel ρ v) = relabel ρ (f.answer v) := by
  cases f with
  | scale factor =>
    refine withKind_relabel (expression?_relabel ρ v) fun x => ?_
    exact congrArg (fun e => Except.ok (Answer.one (Value.expression e))) (x.scale_relabel factor)
  | neg =>
    refine withKind_relabel (scalar?_relabel ρ v) fun x => ?_
    exact congrArg (fun e => Except.ok (Answer.one (Value.ofScalar e))) x.neg_relabel
  | shift k =>
    refine withKind_relabel (vector?_relabel ρ v) fun x => ?_
    exact congrArg (fun e => Except.ok (Answer.one (Value.ofVector e))) (x.shift_relabel k)
  | reindexAffine target =>
    refine withKind_relabel (affine?_relabel ρ v) fun x => ?_
    refine map_ofResult_relabel ?_ (Affine.reindex_relabel hρ x target)
    exact fun _ => rfl
  | reindexQuadratic target =>
    refine withKind_relabel (quadratic?_relabel ρ v) fun x => ?_
    refine map_ofResult_relabel ?_ (Quadratic.reindex_relabel hρ x target)
    exact fun _ => rfl
  | reindexAffineVector target =>
    refine withKind_relabel (affineVector?_relabel ρ v) fun x => ?_
    refine map_ofResult_relabel ?_ (AffineVector.reindex_relabel hρ x target)
    exact fun _ => rfl
  | foldAffine =>
    refine withKind_relabel (affine?_relabel ρ v) fun x => ?_
    exact congrArg (fun e => Except.ok (Answer.one (Value.ofScalar (.affine e))))
      (Affine.folded_relabel hρ x)
  | foldQuadratic =>
    refine withKind_relabel (quadratic?_relabel ρ v) fun x => ?_
    exact congrArg (fun e => Except.ok (Answer.one (Value.ofScalar (.quadratic e))))
      (Quadratic.folded_relabel hρ x)
  | affinePart =>
    exact withKind_relabel (quadratic?_relabel ρ v) fun _ => rfl
  | quadraticOfAffine =>
    refine withKind_relabel (affine?_relabel ρ v) fun x => ?_
    exact congrArg (fun e => Except.ok (Answer.one (Value.ofScalar (.quadratic e))))
      (Quadratic.ofAffine_relabel x)
  | toAffine =>
    refine withKind_relabel (scalar?_relabel ρ v) fun x => ?_
    exact withKind_relabel x.toAffine?_relabel fun _ => rfl
  | toQuadratic =>
    refine withKind_relabel (scalar?_relabel ρ v) fun x => ?_
    exact congrArg (fun e => Except.ok (Answer.one (Value.ofScalar (.quadratic e))))
      x.toQuadratic_relabel
  | toAffineVector =>
    refine withKind_relabel (vector?_relabel ρ v) fun x => ?_
    exact congrArg (fun e => Except.ok (Answer.one (Value.ofVector (.affine e))))
      x.toAffine_relabel
  | component i =>
    refine withKind_relabel (vector?_relabel ρ v) fun x => ?_
    refine map_ofResult_relabel ?_ (x.component_relabel i)
    exact fun _ => rfl
  | coeffs =>
    refine withKind_relabel (scalar?_relabel ρ v) fun x => ?_
    exact congrArg (fun xs => Except.ok (Answer.numbers xs)) (ScalarExpr.coeffs_relabel hρ x)
  | sides =>
    refine withKind_relabel (constraint?_relabel ρ v) fun c => ?_
    cases c <;> rfl
  | rows =>
    refine withKind_relabel (constraint?_relabel ρ v) fun c => ?_
    refine map_ofResult_relabel (fun rows => ?_) c.rows_relabel
    have hrows :
        (rows.map (relabel ρ)).map (fun row => Value.constraint (.scalar row))
          = (rows.map fun row => Value.constraint (.scalar row)).map (relabel ρ) := by
      rw [List.map_map, List.map_map]
      rfl
    exact congrArg Answer.values hrows
  | linearRow =>
    refine withKind_relabel (scalarConstraint?_relabel ρ v) fun c => ?_
    refine map_ofResult_relabel ?_ (ScalarConstraint.linearRow_relabel hρ c)
    exact fun _ => rfl

theorem BinaryCall.answer_relabel
    (f : BinaryCall)
    (v w : Value α) :
    f.answer (relabel ρ v) (relabel ρ w) = relabel ρ (f.answer v w) := by
  cases f with
  | add =>
    refine withKind_relabel (expression?_relabel ρ v) fun x => ?_
    refine withKind_relabel (expression?_relabel ρ w) fun y => ?_
    refine map_ofResult_relabel ?_ (Expression.add_relabel hρ x y)
    exact fun _ => rfl
  | sub =>
    refine withKind_relabel (scalar?_relabel ρ v) fun x => ?_
    refine withKind_relabel (scalar?_relabel ρ w) fun y => ?_
    exact congrArg (fun e => Except.ok (Answer.one (Value.ofScalar e)))
      (ScalarExpr.sub_relabel hρ x y)
  | addAffine =>
    refine withKind_relabel (affine?_relabel ρ v) fun x => ?_
    refine withKind_relabel (affine?_relabel ρ w) fun y => ?_
    exact congrArg (fun e => Except.ok (Answer.one (Value.ofScalar (.affine e))))
      (Affine.add_relabel hρ x y)
  | addQuadratic =>
    refine withKind_relabel (quadratic?_relabel ρ v) fun x => ?_
    refine withKind_relabel (quadratic?_relabel ρ w) fun y => ?_
    exact congrArg (fun e => Except.ok (Answer.one (Value.ofScalar (.quadratic e))))
      (Quadratic.add_relabel hρ x y)
  | addAffineToQuadratic =>
    refine withKind_relabel (quadratic?_relabel ρ v) fun x => ?_
    refine withKind_relabel (affine?_relabel ρ w) fun y => ?_
    exact congrArg (fun e => Except.ok (Answer.one (Value.ofScalar (.quadratic e))))
      (Quadratic.addAffine_relabel hρ x y)
  | addAffineVector =>
    refine withKind_relabel (affineVector?_relabel ρ v) fun x => ?_
    refine withKind_relabel (affineVector?_relabel ρ w) fun y => ?_
    refine map_ofResult_relabel ?_ (AffineVector.add_relabel hρ x y)
    exact fun _ => rfl
  | compare sense =>
    refine withKind_relabel (expression?_relabel ρ v) fun x => ?_
    refine withKind_relabel (expression?_relabel ρ w) fun y => ?_
    refine map_ofResult_relabel ?_ (x.compare_relabel sense y)
    exact fun _ => rfl

/-- A call on relabelled data and values has the relabelled answer. -/
theorem Instr.answer_relabel
    (instr : Instr α)
    (values : List (Value α)) :
    (relabel ρ instr).answer (values.map (relabel ρ)) = relabel ρ (instr.answer values) := by
  have hget (a : Nat) : (values.map (relabel ρ))[a]? = values[a]?.map (relabel ρ) :=
    List.getElem?_map
  cases instr with
  | make m =>
    have hvalue : (relabel ρ m).value = relabel ρ m.value := m.value_relabel hρ
    refine (congrArg (Except.map Answer.one) hvalue).trans ?_
    exact map_relabel (Answer.one : _ → Answer α _) (fun _ => rfl) m.value
  | unary f a =>
    exact withKind_relabel (hget a) (f.answer_relabel hρ)
  | binary f a b =>
    exact withKind_relabel (hget a) fun v => withKind_relabel (hget b) (f.answer_relabel hρ v)
  | sum places =>
    refine withKind_relabel (operands?_relabel (scalar?_relabel ρ) values places) fun items => ?_
    exact congrArg (fun e => Except.ok (Answer.one (Value.ofScalar e)))
      (ScalarExpr.sum_relabel hρ items)
  | sumFromConstant places =>
    refine withKind_relabel (operands?_relabel (scalar?_relabel ρ) values places) fun items => ?_
    exact congrArg (fun e => Except.ok (Answer.one (Value.ofScalar e)))
      (ScalarExpr.sumFromConstant_relabel hρ items)

end Answers

end MathProgram

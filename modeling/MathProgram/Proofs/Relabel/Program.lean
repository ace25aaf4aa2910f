import MathProgram.Model
import MathProgram.Proofs.Relabel.Instruction
import MathProgram.Proofs.ResultIds

/-!
# Identity of variables

Operations of the algebra are carried out one after another, each on the values
that earlier ones handed out.  Besides the calls on expressions and constraints
they list the variables of an expression, drop repeats, merge bases and look slots
up.  The bases they work on are values as well.

**What a variable is.**  The algebra looks at variables only through equality of
their ids.  Suppose that the handles that go into a run are replaced by others, with
other ids, bounds and kinds, but such that two of them share an id exactly if the two
that they replace do.  Then the run differs by this replacement only.

**Main statement.**  `Operation.run_respects_identity`.
-/

namespace MathProgram

/-- An operation of the algebra; operands are given by their places among the values so far. -/
inductive Operation (α : Type) where
  | call (instr : Instr α)
  | basis (a : Nat)
  | ids (a : Nat)
  | unique (a : Nat)
  | union (a b : Nat)
  | slotMap (a b : Nat)
  | reindex (a b : Nat)

/-- What an operation came back with, if it was not refused. -/
inductive Reply (α : Type) where
  | answer (a : Answer α (Value α))
  | ids (l : List Nat)
  | union (u : Basis.Union)
  | slots (l : List Nat)

section Operations

variable {α β : Type}

/-- The variables that a value lists, if it is a list of variables. -/
def Value.listed? : Value α → Option Basis
  | .expression (.vector (.vars slots)) => some slots
  | _ => none

/-- A value that is a list of variables. -/
def Value.ofBasis
    (slots : Basis) :
    Value α :=
  ofVector (.vars slots)

/-- The values that an operation hands out for later use. -/
def Reply.handedOut : Reply α → List (Value α)
  | answer a => a.handedOut
  | union u => [.ofBasis u.basis]
  | ids _ => []
  | slots _ => []

/-- Go on with a value that has the kind that is asked for; others have no answer. -/
def withOperand
    (operand : Option β)
    (next : β → Checked (Reply α)) :
    Checked (Reply α) :=
  match operand with
  | some b => next b
  | none => .ok (.answer .nothing)

/-- What a computation came back with, unless it panicked. -/
def Checked.outcome : Checked β → Except Panic (Except ExprError β)
  | .ok b => .ok (.ok b)
  | .error (.refused cause) => .ok (.error cause)
  | .error (.panic p) => .error p

variable [Zero α] [One α] [Add α] [Mul α] [Neg α]

/-- Move an expression over a basis to another basis. -/
def Value.reindex
    (target : Basis) :
    Value α → Checked (Answer α (Value α))
  | .expression (.scalar (.affine e)) =>
    (UnaryCall.reindexAffine target).answer (.ofScalar (.affine e))
  | .expression (.scalar (.quadratic e)) =>
    (UnaryCall.reindexQuadratic target).answer (.ofScalar (.quadratic e))
  | .expression (.vector (.affine e)) =>
    (UnaryCall.reindexAffineVector target).answer (.ofVector (.affine e))
  | _ => .ok .nothing

/-- What an operation gives on the values so far. -/
def Operation.reply
    (values : List (Value α)) :
    Operation α → Checked (Reply α)
  | call instr => (instr.answer values).map .answer
  | basis a =>
    withOperand (values[a]?.bind Value.expression?) fun e =>
      .ok (.answer (.one (.ofBasis e.vars)))
  | ids a => withOperand (values[a]?.bind Value.expression?) fun e => .ok (.ids e.ids)
  | unique a =>
    withOperand (values[a]?.bind Value.listed?) fun x => .ok (.answer (.one (.ofBasis x.unique)))
  | union a b =>
    withOperand (values[a]?.bind Value.listed?) fun x =>
      withOperand (values[b]?.bind Value.listed?) fun y => .ok (.union (x.union y))
  | slotMap a b =>
    withOperand (values[a]?.bind Value.listed?) fun x =>
      withOperand (values[b]?.bind Value.listed?) fun y =>
        (Checked.ofResult (x.slotMap y)).map .slots
  | reindex a b =>
    withOperand values[a]? fun v =>
      withOperand (values[b]?.bind Value.listed?) fun target => (v.reindex target).map .answer

/-- Carry operations out one after another, starting with some values. -/
def Operation.runFrom
    (values : List (Value α)) :
    List (Operation α) → Except Panic (List (Except ExprError (Reply α)))
  | [] => .ok []
  | operation :: program =>
    match (operation.reply values).outcome with
    | .error p => .error p
    | .ok (.error cause) => (runFrom values program).map (.error cause :: ·)
    | .ok (.ok reply) => (runFrom (values ++ reply.handedOut) program).map (.ok reply :: ·)

/-- Carry operations out one after another, starting with no values. -/
def Operation.run
    (program : List (Operation α)) :
    Except Panic (List (Except ExprError (Reply α))) :=
  runFrom [] program

end Operations

section Instances

variable {α : Type}

instance : Labelled (Operation α) where
  relabel ρ
    | .call instr => .call (relabel ρ instr)
    | operation => operation
  handles
    | .call instr => handles instr
    | _ => []
  bareIds _ := []
  relabel_eq_iff := by
    rintro ρ σ (instr | _ | _ | _ | _ | _ | _)
    · simp only [Operation.call.injEq, relabel_eq_iff]
      cases instr <;> rfl
    all_goals simp

instance : Labelled (Reply α) where
  relabel ρ
    | .answer a => .answer (relabel ρ a)
    | .ids l => .ids (l.map ρ.onId)
    | .union u => .union { u with basis := u.basis.map ρ.handle }
    | .slots l => .slots l
  handles
    | .answer a => handles a
    | .union u => u.basis
    | _ => []
  bareIds
    | .answer a => bareIds a
    | .ids l => l
    | _ => []
  relabel_eq_iff := by
    rintro ρ σ (a | l | u | l)
    · simp only [Reply.answer.injEq, relabel_eq_iff]
    · simp
    · simp
    · simp

instance : Labelled Panic where
  relabel _ p := p
  handles _ := []
  bareIds _ := []
  relabel_eq_iff := by
    intro ρ σ p
    simp

end Instances

section Relabel

variable {α β : Type} {ρ : Relabelling}

theorem listed?_relabel
    (ρ : Relabelling)
    (v : Value α) :
    (relabel ρ v).listed? = v.listed?.map (relabel ρ) := by
  rcases v with (e | (ks | slots | e)) | c <;> rfl

theorem Reply.handedOut_relabel
    (reply : Reply α) :
    (relabel ρ reply).handedOut = reply.handedOut.map (relabel ρ) := by
  rcases reply with (vs | _ | _ | _) | _ | _ | _ <;> rfl

/-- A relabelled operand is gone on with like the operand. -/
theorem withOperand_relabel
    [Labelled β]
    {relabelled operand : Option β}
    (hoperand : relabelled = operand.map (relabel ρ))
    {relabelledNext next : β → Checked (Reply α)}
    (hnext : ∀ b, relabelledNext (relabel ρ b) = relabel ρ (next b)) :
    withOperand relabelled relabelledNext = relabel ρ (withOperand operand next) := by
  subst hoperand
  cases operand with
  | none => rfl
  | some b => exact hnext b

theorem Checked.outcome_relabel
    [Labelled β]
    (result : Checked β) :
    (relabel ρ result).outcome = relabel ρ result.outcome := by
  rcases result with (p | cause) | b <;> rfl

/-- Places hold relabelled operands after a relabelling. -/
theorem bind_kind_relabel
    [Labelled β]
    {kind? : Value α → Option β}
    (hkind : ∀ v, kind? (relabel ρ v) = (kind? v).map (relabel ρ))
    (values : List (Value α))
    (a : Nat) :
    (values.map (relabel ρ))[a]?.bind kind? = (values[a]?.bind kind?).map (relabel ρ) := by
  rw [List.getElem?_map]
  cases values[a]? with
  | none => rfl
  | some v => exact hkind v

theorem map_answer_relabel
    {relabelled result : Checked (Answer α (Value α))}
    (h : relabelled = relabel ρ result) :
    relabelled.map Reply.answer = relabel ρ (result.map Reply.answer) := by
  subst h
  exact map_relabel Reply.answer (fun _ => rfl) result

theorem Expression.ids_relabel
    (hρ : ρ.Faithful)
    (e : Expression α) :
    (relabel ρ e).ids = e.ids.map ρ.onId := by
  rw [ids_eq_ids_vars, ids_eq_ids_vars, vars_relabel, Basis.ids_relabel hρ]

variable [Zero α] [One α] [Add α] [Mul α] [Neg α] (hρ : ρ.Faithful)

include hρ

theorem Value.reindex_relabel
    (target : Basis)
    (v : Value α) :
    (relabel ρ v).reindex (target.map ρ.handle) = relabel ρ (v.reindex target) := by
  rcases v with ((k | w | e | e) | (ks | slots | e)) | c
  case expression.scalar.affine =>
    exact (UnaryCall.reindexAffine target).answer_relabel hρ (.ofScalar (.affine e))
  case expression.scalar.quadratic =>
    exact (UnaryCall.reindexQuadratic target).answer_relabel hρ (.ofScalar (.quadratic e))
  case expression.vector.affine =>
    exact (UnaryCall.reindexAffineVector target).answer_relabel hρ (.ofVector (.affine e))
  all_goals rfl

/-- An operation on relabelled values gives the relabelled reply. -/
theorem Operation.reply_relabel
    (operation : Operation α)
    (values : List (Value α)) :
    (relabel ρ operation).reply (values.map (relabel ρ)) = relabel ρ (operation.reply values) := by
  have hexpression := bind_kind_relabel (expression?_relabel ρ) values
  have hlisted := bind_kind_relabel (listed?_relabel ρ) values
  cases operation with
  | call instr =>
    exact map_answer_relabel (instr.answer_relabel hρ values)
  | basis a =>
    refine withOperand_relabel (hexpression a) fun e => ?_
    exact congrArg (fun l => Except.ok (Reply.answer (.one (Value.ofBasis l)))) e.vars_relabel
  | ids a =>
    refine withOperand_relabel (hexpression a) fun e => ?_
    exact congrArg (fun l => Except.ok (Reply.ids l)) (e.ids_relabel hρ)
  | unique a =>
    refine withOperand_relabel (hlisted a) fun x => ?_
    exact congrArg (fun l => Except.ok (Reply.answer (.one (Value.ofBasis l))))
      (Basis.unique_relabel hρ x)
  | union a b =>
    refine withOperand_relabel (hlisted a) fun x => ?_
    refine withOperand_relabel (hlisted b) fun y => ?_
    exact congrArg (fun u => Except.ok (Reply.union u)) (Basis.union_relabel hρ x y)
  | slotMap a b =>
    refine withOperand_relabel (hlisted a) fun x => ?_
    refine withOperand_relabel (hlisted b) fun y => ?_
    have hslots := Basis.slotMap_relabel hρ x y
    refine (congrArg (fun r => (Checked.ofResult r).map Reply.slots) hslots).trans ?_
    cases x.slotMap y <;> rfl
  | reindex a b =>
    refine withOperand_relabel List.getElem?_map fun v => ?_
    refine withOperand_relabel (hlisted b) fun target => ?_
    exact map_answer_relabel (v.reindex_relabel hρ target)

/-- A relabelled run comes to the relabelled outcomes, one operation after another. -/
theorem Operation.runFrom_relabel
    (values : List (Value α))
    (program : List (Operation α)) :
    runFrom (values.map (relabel ρ)) (program.map (relabel ρ))
      =
    relabel ρ (runFrom values program) := by
  induction program generalizing values with
  | nil =>
    rfl
  | cons operation program ih =>
    rw [List.map_cons, runFrom, runFrom, operation.reply_relabel hρ, Checked.outcome_relabel]
    rcases (operation.reply values).outcome with p | cause | reply
    · rfl
    · have hrest := ih values
      simp only [relabel_ok, relabel_error, hrest]
      cases runFrom values program <;> rfl
    · have hrest := ih (values ++ reply.handedOut)
      rw [List.map_append, ← reply.handedOut_relabel] at hrest
      simp only [relabel_ok, hrest]
      cases runFrom (values ++ reply.handedOut) program <;> rfl

omit hρ in
theorem Operation.natural_run :
    Natural (run : List (Operation α) → Except Panic (List (Except ExprError (Reply α)))) := by
  intro ρ hρ program
  exact runFrom_relabel hρ [] program

end Relabel

section Identity

variable {α : Type}

/-- Ids enter a program with handles only. -/
theorem Operation.hasHandles
    (program : List (Operation α)) :
    HasHandles program := by
  intro id hid
  obtain ⟨operation, -, hoperation⟩ := List.mem_flatMap.mp hid
  cases hoperation

variable [Zero α] [One α] [Add α] [Mul α] [Neg α]

/--
The algebra looks at variables only through equality of their ids.  A replacement of the
handles in a program that keeps which of them share an id replaces the same handles in
the outcomes and the ids that are reported, and changes nothing else: not which
operations succeed, and no kind, length, slot or number.  No other handles and ids occur
in the outcomes.
-/
theorem Operation.run_respects_identity
    (program : List (Operation α))
    (f : Variable → Variable)
    (hf : ∀ u ∈ handles program, ∀ w ∈ handles program, (f u).id = (f w).id ↔ u.id = w.id) :
    run (relabel (.ofHandles f (handles program)) program)
        = relabel (.ofHandles f (handles program)) (run program) ∧
      (∀ v ∈ handles (run program), v ∈ handles program) ∧
      ∀ id ∈ bareIds (run program), ∃ u ∈ handles program,
        u.id = id ∧ (Relabelling.ofHandles f (handles program)).onId id = (f u).id := by
  obtain ⟨hrun, hhandles, hids⟩ := natural_run.relabel_eq (hasHandles program) hf
  refine ⟨hrun, hhandles, ?_⟩
  intro id hid
  obtain ⟨u, hu, rfl⟩ := hids id hid
  exact ⟨u, hu, rfl, Relabelling.onId_ofHandles hf hu⟩

/-- One id in two slots with different domains, looked up in a list that lacks it. -/
def lookedUp : List (Operation Int) :=
  [.call (.make (.affine [VariableDomain.free.handle 3, VariableDomain.free.handle 5,
      VariableDomain.binary.handle 3] [1, 2, 4] 0)),
    .basis 0, .unique 1, .call (.make (.vars [VariableDomain.free.handle 5])), .slotMap 1 3,
    .reindex 0 2, .call (.make (.constant 7)), .call (.binary (.compare .lessEqual) 4 5),
    .call (.unary .linearRow 6)]

/-- Binary variables with ids that run the other way. -/
def reversed (v : Variable) : Variable :=
  VariableDomain.binary.handle (10 - v.id)

/-- New domains and ids leave a row as it is, but for the ids that it and a refusal report. -/
theorem Operation.run_respects_identity_reversed :
    run (relabel (.ofHandles reversed (handles lookedUp)) lookedUp)
        = relabel (.ofHandles reversed (handles lookedUp)) (run lookedUp) ∧
      ∃ log, run (relabel (.ofHandles reversed (handles lookedUp)) lookedUp) = .ok log ∧
        log[4]? = some (.error (.missingVariable 7)) ∧
        log[8]? = some (.ok (.answer (.row ⟨[7, 5], [5, 2], .lessEqual, 7⟩))) := by
  obtain ⟨hrun, -, -⟩ := run_respects_identity lookedUp reversed (by decide)
  exact ⟨hrun, _, rfl, rfl, rfl⟩

end Identity

end MathProgram

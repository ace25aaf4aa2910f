import MathProgram.Proofs.Relabel.Program
import MathProgram.Proofs.SentRows

/-!
# Models over their own variables

A program that builds expressions, constraints and an objective for a model may use
the variables that the model has handed out, and whatever the operations of the
algebra make of them.  Operations make no handle up, because they respect the
identity of variables.  All that such a model stores is therefore over variables of
its own.

**Order of calls.**  A run passes all variables before it passes the first row.  What
was passed before a row or an objective includes every variable that occurs in it.
A run that is refused earlier may leave variables out, but it passes none twice.

**Results.**
* `BuiltFromOwn.keepsOwn`: the handles in everything that is held and stored.
* `variables_passed_before`: the variables that a run has passed before a call.
* `no_variable_lost`: no operation and no run loses a variable or invents one.
* `variable_not_passed`: a run that is refused at its first call passes no variable.
-/

namespace MathProgram

section Prefixes

variable {β : Type}

/-- What comes before an entry that a first part lacks includes that part. -/
theorem prefix_of_append_of_not_mem
    {before first second : List β}
    {b : β}
    (h : before ++ [b] <+: first ++ second)
    (hb : b ∉ first) :
    first <+: before := by
  have hfirst : first <+: first ++ second := List.prefix_append ..
  rcases Nat.lt_or_ge before.length first.length with hlength | hlength
  · have hlonger : (before ++ [b]).length ≤ first.length := by
      rw [List.length_append, List.length_singleton]
      omega
    have hinside := List.prefix_of_prefix_length_le h hfirst hlonger
    exact absurd (hinside.subset (List.mem_append_right before (List.mem_singleton_self b))) hb
  · have hbefore : before <+: first ++ second := (List.prefix_append ..).trans h
    exact List.prefix_of_prefix_length_le hfirst hbefore hlength

end Prefixes

section Closed

variable {α : Type}

theorem Reply.handles_handedOut
    {reply : Reply α}
    {v : Variable}
    (hv : v ∈ handles reply.handedOut) :
    v ∈ handles reply := by
  rcases reply with (vs | xs | r | _) | l | u | l
  case union =>
    have hbasis : handles [Value.ofBasis (α := α) u.basis] = u.basis ++ [] := rfl
    rwa [Reply.handedOut, hbasis, List.append_nil] at hv
  all_goals exact hv

theorem bareIds_values
    (values : List (Value α)) :
    bareIds values = [] := by
  exact List.flatMap_eq_nil_iff.mpr fun _ _ => rfl

theorem Expression.handles_of_compare
    {a b : Expression α}
    {sense : Sense}
    {c : Constraint α}
    (h : a.compare sense b = .ok c)
    {v : Variable}
    (hv : v ∈ handles c) :
    v ∈ a.vars ∨ v ∈ b.vars := by
  have hnatural : Natural fun p : Expression α × Expression α => p.1.compare sense p.2 := by
    intro ρ _ p
    exact p.1.compare_relabel sense p.2
  have hids : HasHandles (a, b) := hasHandles_of_bareIds_eq_nil rfl
  obtain ⟨hclosed, -⟩ := hnatural.closed_of_eq_ok hids h
  exact List.mem_append.mp (hclosed v hv)

/-- A row of a constraint has only variables of the constraint. -/
theorem Constraint.handles_of_scalarRows
    {c : Constraint α}
    {row : ScalarConstraint α}
    (h : row ∈ c.scalarRows)
    {v : Variable}
    (hv : v ∈ handles row) :
    v ∈ handles c := by
  have hnatural : Natural (Constraint.rows : Constraint α → _) := by
    intro ρ _ c
    exact c.rows_relabel
  have hids : HasHandles c := hasHandles_of_bareIds_eq_nil rfl
  obtain ⟨hclosed, -⟩ := hnatural.closed_of_eq_ok hids c.rows_eq
  exact hclosed v (List.mem_flatMap.mpr ⟨row, h, hv⟩)

variable [Zero α] [One α] [Add α] [Mul α] [Neg α]

/-- An id of a linear row is that of a variable of its sides. -/
theorem ScalarConstraint.exists_handle_of_linearRow
    {row : ScalarConstraint α}
    {linear : LinearRow α}
    (h : row.linearRow = .ok linear)
    {id : Nat}
    (hid : id ∈ linear.ids) :
    ∃ v ∈ handles row, v.id = id := by
  have hside (a : ScalarExpr α) (ha : id ∈ a.ids) : ∃ v ∈ a.vars, v.id = id := by
    rw [ScalarExpr.ids_eq_ids_vars, Basis.mem_ids_iff] at ha
    exact List.mem_map.mp ha
  rw [ids_of_linearRow h] at hid
  rcases List.mem_append.mp hid with hlhs | hrhs
  · obtain ⟨v, hv, rfl⟩ := hside row.lhs hlhs
    exact ⟨v, List.mem_append_left _ hv, rfl⟩
  · obtain ⟨v, hv, rfl⟩ := hside row.rhs (List.mem_of_mem_filter hrhs)
    exact ⟨v, List.mem_append_right _ hv, rfl⟩

/-- What an operation hands out has only handles of its operands and its data. -/
theorem Operation.handles_of_reply
    {operation : Operation α}
    {values : List (Value α)}
    {reply : Reply α}
    (h : operation.reply values = .ok reply)
    {v : Variable}
    (hv : v ∈ handles reply.handedOut) :
    v ∈ handles values ∨ v ∈ handles operation := by
  have hnatural : Natural fun p : List (Value α) × Operation α => p.2.reply p.1 := by
    intro ρ hρ p
    exact p.2.reply_relabel hρ p.1
  have hnone : bareIds (values, operation) = [] :=
    List.append_eq_nil_iff.mpr ⟨bareIds_values values, rfl⟩
  obtain ⟨hclosed, -⟩ := hnatural.closed_of_eq_ok (hasHandles_of_bareIds_eq_nil hnone) h
  exact List.mem_append.mp (hclosed v (Reply.handles_handedOut hv))

end Closed

namespace Model

section Building

variable {α : Type} [Zero α] [One α] [Add α] [Mul α] [Neg α]

/--
The models, with the values held beside them, that programs lead to which use no
variables but those that the model has handed out.
-/
inductive BuiltFromOwn : Model α → List (Value α) → Prop
  | empty :
      BuiltFromOwn .empty []
  | addVariable
      {m : Model α}
      {values : List (Value α)}
      (domain : VariableDomain)
      (h : BuiltFromOwn m values) :
      BuiltFromOwn (m.addVariable domain).2 values
  | carryOut
      {m : Model α}
      {values : List (Value α)}
      {operation : Operation α}
      {reply : Reply α}
      (h : BuiltFromOwn m values)
      (own : ∀ v ∈ handles operation, v ∈ m.vars)
      (carriedOut : operation.reply values = .ok reply) :
      BuiltFromOwn m (values ++ reply.handedOut)
  | addConstraint
      {m : Model α}
      {values : List (Value α)}
      {c : Constraint α}
      (h : BuiltFromOwn m values)
      (held : .constraint c ∈ values) :
      BuiltFromOwn (m.addConstraint c).2 values
  | addComparison
      {m : Model α}
      {values : List (Value α)}
      {a b : Expression α}
      (h : BuiltFromOwn m values)
      (heldLeft : .expression a ∈ values)
      (sense : Sense)
      (heldRight : .expression b ∈ values) :
      BuiltFromOwn (m.addComparison (a.compare sense b)).2 values
  | setObjective
      {m : Model α}
      {values : List (Value α)}
      {e : ScalarExpr α}
      (h : BuiltFromOwn m values)
      (direction : Direction)
      (held : .ofScalar e ∈ values) :
      BuiltFromOwn (m.setObjective { direction, expression := e }) values
  | setShowLog
      {m : Model α}
      {values : List (Value α)}
      (flag : Bool)
      (h : BuiltFromOwn m values) :
      BuiltFromOwn (m.setShowLog flag) values
  | setTimeLimit
      {m : Model α}
      {values : List (Value α)}
      (limit : Duration)
      (h : BuiltFromOwn m values) :
      BuiltFromOwn (m.setTimeLimit limit) values

variable {m : Model α} {values : List (Value α)}

theorem BuiltFromOwn.addVector
    (h : BuiltFromOwn m values)
    (domain : VariableDomain)
    (n : Nat) :
    BuiltFromOwn (m.addVector domain n).2 values := by
  induction n generalizing m with
  | zero => exact h
  | succ n ih => exact ih (h.addVariable domain)

theorem BuiltFromOwn.addGrid
    (h : BuiltFromOwn m values)
    (domain : VariableDomain)
    (rows cols : Nat) :
    BuiltFromOwn (m.addGrid domain rows cols).2 values := by
  induction rows generalizing m with
  | zero => exact h
  | succ rows ih => exact ih (h.addVector domain cols)

theorem BuiltFromOwn.built
    (h : BuiltFromOwn m values) :
    m.Built := by
  induction h with
  | empty => exact .empty
  | addVariable domain _ ih => exact ih.addVariable domain
  | carryOut _ _ _ ih => exact ih
  | addConstraint _ _ ih => exact ih.addConstraint _
  | @addComparison m values a b _ _ sense _ ih =>
    cases hcompare : a.compare sense b with
    | error cause => exact ih
    | ok c => exact ih.addConstraint c
  | setObjective _ _ _ ih => exact ih.setObjective _
  | setShowLog flag _ ih => exact ih.setShowLog flag
  | setTimeLimit limit _ ih => exact ih.setTimeLimit limit

/-- The values held and everything the model stores is over variables of the model. -/
structure KeepsOwn
    (m : Model α)
    (values : List (Value α)) :
    Prop where
  values : ∀ v ∈ handles values, v ∈ m.vars
  constraints : ∀ v ∈ handles m.constraints, v ∈ m.vars
  objective : ∀ o ∈ m.objective, ∀ v ∈ o.expression.vars, v ∈ m.vars

omit [Zero α] [One α] [Add α] [Mul α] [Neg α] in
theorem KeepsOwn.addConstraint
    (h : m.KeepsOwn values)
    {c : Constraint α}
    (hc : ∀ v ∈ handles c, v ∈ m.vars) :
    (m.addConstraint c).2.KeepsOwn values where
  values := h.values
  constraints := by
    intro v hv
    have hsplit : handles (m.constraints ++ [c]) = handles m.constraints ++ (handles c ++ []) :=
      List.flatMap_append
    have hmem : v ∈ handles (m.constraints ++ [c]) := hv
    rw [hsplit, List.append_nil] at hmem
    exact (List.mem_append.mp hmem).elim (h.constraints v) (hc v)
  objective := h.objective

omit [Zero α] [One α] [Add α] [Mul α] [Neg α] in
theorem KeepsOwn.of_mem
    (h : m.KeepsOwn values)
    {value : Value α}
    (hmem : value ∈ values)
    {v : Variable}
    (hv : v ∈ handles value) :
    v ∈ m.vars := by
  exact h.values v (List.mem_flatMap.mpr ⟨value, hmem, hv⟩)

/-- Building a model from its own variables keeps everything over them. -/
theorem BuiltFromOwn.keepsOwn
    (h : BuiltFromOwn m values) :
    m.KeepsOwn values := by
  induction h with
  | empty =>
    exact ⟨fun _ hv => (by cases hv), fun _ hv => (by cases hv), fun _ ho => (by cases ho)⟩
  | @addVariable m values domain _ ih =>
    have hgrown {v : Variable} (hv : v ∈ m.vars) : v ∈ (m.addVariable domain).2.vars :=
      List.mem_append_left _ hv
    exact
      { values := fun v hv => hgrown (ih.values v hv)
        constraints := fun v hv => hgrown (ih.constraints v hv)
        objective := fun o ho v hv => hgrown (ih.objective o ho v hv) }
  | @carryOut m values operation reply _ own carriedOut ih =>
    refine ⟨?_, ih.constraints, ih.objective⟩
    intro v hv
    have hsplit : handles (values ++ reply.handedOut) = handles values ++ handles reply.handedOut :=
      List.flatMap_append
    rw [hsplit] at hv
    rcases List.mem_append.mp hv with hv | hv
    · exact ih.values v hv
    · exact (Operation.handles_of_reply carriedOut hv).elim (ih.values v) (own v)
  | addConstraint _ held ih =>
    exact ih.addConstraint fun v hv => ih.of_mem held hv
  | @addComparison m values a b _ heldLeft sense heldRight ih =>
    cases hcompare : a.compare sense b with
    | error cause => exact ih
    | ok c =>
      refine ih.addConstraint fun v hv => ?_
      exact (Expression.handles_of_compare hcompare hv).elim (ih.of_mem heldLeft)
        (ih.of_mem heldRight)
  | setObjective _ direction held ih =>
    refine ⟨ih.values, ih.constraints, ?_⟩
    rintro _ ⟨⟩ v hv
    exact ih.of_mem held hv
  | setShowLog flag _ ih => exact ⟨ih.values, ih.constraints, ih.objective⟩
  | setTimeLimit limit _ ih => exact ⟨ih.values, ih.constraints, ih.objective⟩

end Building

end Model

section Calls

variable {α : Type}

/-- The variable that a call passes, if it passes one. -/
def Call.sentVariable? : Call α → Option Variable
  | addVariable v => some v
  | _ => none

/-- Settings and variables, which come before everything that has variables. -/
def Call.IsPreparation : Call α → Prop
  | showLog _ => True
  | setTimeLimit _ => True
  | addVariable _ => True
  | _ => False

namespace Model

/-- The calls of a run up to its last variable. -/
def preparation
    (m : Model α) :
    List (Call α) :=
  [.showLog m.showLog]
    ++ (if m.timeLimit = .zero then [] else [.setTimeLimit m.timeLimit.toSeconds])
    ++ m.vars.map .addVariable

/-- The calls of a run after its last variable. -/
def content
    (m : Model α) :
    List (Call α) :=
  (m.constraints.flatMap Constraint.scalarRows).map .addConstraint ++ m.closingCalls ++ [.optimize]

theorem schedule_eq
    (m : Model α) :
    m.schedule = m.preparation ++ m.content := by
  simp only [schedule, loadCalls, openingCalls, preparation, content, List.append_assoc]

theorem isPreparation_of_mem
    {m : Model α}
    {call : Call α}
    (h : call ∈ m.preparation) :
    call.IsPreparation := by
  rcases List.mem_append.mp h with h | h
  · rcases List.mem_append.mp h with h | h
    · obtain rfl := List.mem_singleton.mp h
      trivial
    · split at h
      · cases h
      · obtain rfl := List.mem_singleton.mp h
        trivial
  · obtain ⟨v, -, rfl⟩ := List.mem_map.mp h
    trivial

theorem not_isPreparation_of_mem
    {m : Model α}
    {call : Call α}
    (h : call ∈ m.content) :
    ¬ call.IsPreparation := by
  rcases List.mem_append.mp h with h | h
  · rcases List.mem_append.mp h with h | h
    · obtain ⟨row, -, rfl⟩ := List.mem_map.mp h
      exact id
    · obtain ⟨o, -, rfl⟩ := Option.map_eq_some_iff.mp (Option.mem_toList.mp h)
      exact id
  · obtain rfl := List.mem_singleton.mp h
    exact id

theorem filterMap_sentVariable?_preparation
    (m : Model α) :
    m.preparation.filterMap Call.sentVariable? = m.vars := by
  have hvars (vars : List Variable) :
      (vars.map fun v => (.addVariable v : Call α)).filterMap Call.sentVariable? = vars := by
    induction vars with
    | nil => rfl
    | cons v vars ih => exact congrArg (v :: ·) ih
  have hlimit :
      (if m.timeLimit = .zero then ([] : List (Call α))
        else [.setTimeLimit m.timeLimit.toSeconds]).filterMap Call.sentVariable? = [] := by
    split <;> rfl
  rw [preparation, List.filterMap_append, List.filterMap_append, hvars, hlimit, List.append_nil]
  rfl

theorem filterMap_sentVariable?_schedule
    (m : Model α) :
    m.schedule.filterMap Call.sentVariable? = m.vars := by
  have hcontent : m.content.filterMap Call.sentVariable? = [] := by
    apply List.filterMap_eq_nil_iff.mpr
    intro call hcall
    have hnot := not_isPreparation_of_mem hcall
    cases call with
    | addVariable v => exact absurd trivial hnot
    | _ => rfl
  rw [schedule_eq, List.filterMap_append, hcontent, filterMap_sentVariable?_preparation,
    List.append_nil]

theorem mem_scalarRows_of_mem_content
    {m : Model α}
    {row : ScalarConstraint α}
    (h : .addConstraint row ∈ m.content) :
    ∃ c ∈ m.constraints, row ∈ c.scalarRows := by
  simpa [content, closingCalls] using h

theorem objective_of_mem_content
    {m : Model α}
    {o : Objective α}
    (h : .setObjective o ∈ m.content) :
    m.objective = some o := by
  simpa [content, closingCalls] using h

/--
A run without a variable makes no call.  Any other run makes its whole schedule, or the
part of it up to a call that is refused, and then the deletion.
-/
theorem calls_optimize
    {m : Model α}
    {solver : Solver α}
    {trace : Trace α}
    {made : List (Call α)}
    (h : ((m.optimize solver).runFrom trace).2.calls = trace.calls ++ made) :
    (m.vars = [] ∧ made = [])
      ∨
    ∃ part, part <+: m.schedule ∧ made = part ++ [.delete] ∧
      (part = m.schedule ∨ ∃ before call cause,
        part = before ++ [call] ∧ solver.answer (trace.calls ++ before) call = .error cause) := by
  by_cases hvars : m.vars = []
  · rw [optimize_of_vars_eq_nil hvars, List.self_eq_append_right] at h
    exact .inl ⟨hvars, h⟩
  · rcases optimize_cases hvars solver trace with ⟨_, hrun⟩ | ⟨before, call, cause, hrun⟩
    · have hcalls := hrun.calls
      rw [h, List.append_assoc] at hcalls
      exact .inr ⟨_, List.prefix_rfl, List.append_cancel_left hcalls, .inl rfl⟩
    · have hcalls := hrun.calls
      rw [h, List.append_assoc, List.append_assoc, ← List.append_assoc before] at hcalls
      exact .inr ⟨_, hrun.scheduled, List.append_cancel_left hcalls,
        .inr ⟨before, call, cause, rfl, hrun.refused⟩⟩

/-- Before a call that is no preparation a run has made all preparations. -/
theorem preparation_made_before
    {m : Model α}
    {part before after : List (Call α)}
    {call : Call α}
    (hpart : part <+: m.schedule)
    (hmade : part ++ [.delete] = before ++ call :: after)
    (hcall : ¬ call.IsPreparation)
    (hdelete : call ≠ .delete) :
    m.preparation <+: before ∧ call ∈ m.content := by
  have hbefore : before ++ [call] <+: part ++ [.delete] := by
    rw [hmade]
    exact ⟨after, by simp⟩
  have hscheduled : before ++ [call] <+: m.preparation ++ m.content := by
    rw [← schedule_eq]
    rcases List.prefix_concat_iff.mp hbefore with hall | hinside
    · exact absurd (List.append_inj_right' hall rfl) (by simpa using hdelete)
    · exact hinside.trans hpart
  have hnew : call ∉ m.preparation := mt isPreparation_of_mem hcall
  refine ⟨prefix_of_append_of_not_mem hscheduled hnew, ?_⟩
  have hmem := hscheduled.subset (List.mem_append_right before (List.mem_singleton_self call))
  exact (List.mem_append.mp hmem).resolve_left hnew

/-- Among the preparations of a run are all variables. -/
theorem addVariable_mem_of_prepared
    {m : Model α}
    {before : List (Call α)}
    (h : m.preparation <+: before)
    {v : Variable}
    (hv : v ∈ m.vars) :
    .addVariable v ∈ before := by
  exact h.subset (List.mem_append_right _ (List.mem_map_of_mem hv))

/--
Calls pass the variables of a model in order and none twice.  Those that a row or an
objective has were passed before it, and all are passed unless a preparation is refused.
-/
structure PassesVariables
    [Zero α]
    [One α]
    [Add α]
    [Mul α]
    [Neg α]
    (m : Model α)
    (solver : Solver α)
    (history made : List (Call α)) :
    Prop where
  rows : ∀ before row after, made = before ++ .addConstraint row :: after →
    ∀ linear, row.linearRow = .ok linear →
      ∀ id ∈ linear.ids, ∃ v, .addVariable v ∈ before ∧ v.id = id
  objective : ∀ before o after, made = before ++ .setObjective o :: after →
    ∀ id ∈ o.expression.ids, ∃ v, .addVariable v ∈ before ∧ v.id = id
  inOrder : made.filterMap Call.sentVariable? <+: m.vars
  distinct : (m.vars.map Variable.id).Nodup
  all :
    (∀ before call after, made = before ++ call :: after → call.IsPreparation →
      ∃ reply, solver.answer (history ++ before) call = .ok reply) →
        made.filterMap Call.sentVariable? = m.vars

/-- A part of the schedule that includes all preparations passes all variables. -/
theorem filterMap_sentVariable?_of_prepared
    {m : Model α}
    {part : List (Call α)}
    (hpart : part <+: m.schedule)
    (h : m.preparation <+: part) :
    part.filterMap Call.sentVariable? = m.vars := by
  have hbelow := hpart.filterMap Call.sentVariable?
  have habove := h.filterMap Call.sentVariable?
  rw [filterMap_sentVariable?_schedule] at hbelow
  rw [filterMap_sentVariable?_preparation] at habove
  exact hbelow.eq_of_length (Nat.le_antisymm hbelow.length_le habove.length_le)

/-- A refusal after the preparations comes too late to keep a variable back. -/
theorem filterMap_sentVariable?_of_refused
    {m : Model α}
    {before : List (Call α)}
    {call : Call α}
    (hpart : before ++ [call] <+: m.schedule)
    (hcall : ¬ call.IsPreparation) :
    (before ++ [call]).filterMap Call.sentVariable? = m.vars := by
  have hscheduled : call ∈ m.schedule :=
    hpart.subset (List.mem_append_right before (List.mem_singleton_self call))
  have hdelete : call ≠ .delete := by
    rintro rfl
    exact m.delete_not_mem_schedule hscheduled
  have hsplit : before ++ [call] ++ [.delete] = before ++ call :: [.delete] :=
    List.append_assoc ..
  obtain ⟨hprepared, -⟩ := preparation_made_before hpart hsplit hcall hdelete
  exact filterMap_sentVariable?_of_prepared hpart (hprepared.trans (List.prefix_append ..))

variable [Zero α] [One α] [Add α] [Mul α] [Neg α]

/-- Every run of a model that was built from its own variables passes them as it should. -/
theorem BuiltFromOwn.passesVariables
    {m : Model α}
    {values : List (Value α)}
    (h : BuiltFromOwn m values)
    {solver : Solver α}
    {trace : Trace α}
    {made : List (Call α)}
    (hmade : ((m.optimize solver).runFrom trace).2.calls = trace.calls ++ made) :
    m.PassesVariables solver trace.calls made := by
  have hown := h.keepsOwn
  have hdistinct : (m.vars.map Variable.id).Nodup := by
    rw [h.built.map_id_vars]
    exact List.nodup_range
  rcases calls_optimize hmade with ⟨hvars, rfl⟩ | ⟨part, hpart, rfl, hend⟩
  · exact
      { rows := fun before row after hsplit => by simp at hsplit
        objective := fun before o after hsplit => by simp at hsplit
        inOrder := List.nil_prefix
        distinct := hdistinct
        all := fun _ => hvars.symm }
  · have hdrop : (part ++ [Call.delete]).filterMap Call.sentVariable?
        = part.filterMap Call.sentVariable? := by
      rw [List.filterMap_append]
      exact List.append_nil _
    constructor
    case rows =>
      intro before row after hsplit linear hlinear id hid
      obtain ⟨hprepared, hcontent⟩ := preparation_made_before hpart hsplit (fun h => h) (by simp)
      obtain ⟨c, hc, hrow⟩ := mem_scalarRows_of_mem_content hcontent
      obtain ⟨v, hv, rfl⟩ := ScalarConstraint.exists_handle_of_linearRow hlinear hid
      have hmem : v ∈ handles m.constraints :=
        List.mem_flatMap.mpr ⟨c, hc, Constraint.handles_of_scalarRows hrow hv⟩
      exact ⟨v, addVariable_mem_of_prepared hprepared (hown.constraints v hmem), rfl⟩
    case objective =>
      intro before o after hsplit id hid
      obtain ⟨hprepared, hcontent⟩ := preparation_made_before hpart hsplit (fun h => h) (by simp)
      rw [ScalarExpr.ids_eq_ids_vars, Basis.mem_ids_iff] at hid
      obtain ⟨v, hv, rfl⟩ := List.mem_map.mp hid
      have hmem := hown.objective o (objective_of_mem_content hcontent) v hv
      exact ⟨v, addVariable_mem_of_prepared hprepared hmem, rfl⟩
    case inOrder =>
      rw [hdrop, ← m.filterMap_sentVariable?_schedule]
      exact hpart.filterMap Call.sentVariable?
    case distinct =>
      exact hdistinct
    case all =>
      intro haccepted
      rw [hdrop]
      rcases hend with rfl | ⟨before, call, cause, rfl, hrefused⟩
      · exact m.filterMap_sentVariable?_schedule
      · by_cases hcall : call.IsPreparation
        · have hsplit : before ++ [call] ++ [.delete] = before ++ call :: [.delete] :=
            List.append_assoc ..
          obtain ⟨reply, hreply⟩ := haccepted before call [.delete] hsplit hcall
          rw [hrefused] at hreply
          cases hreply
        · exact filterMap_sentVariable?_of_refused hpart hcall

end Model

/--
No variable is lost or invented.  Sums have the ids of their left operand and then those
that only the right one has, and the other operations keep the ids.  A run of a model that
was built from its own variables therefore passes them before anything that has them.
-/
theorem no_variable_lost
    [Zero α]
    [One α]
    [Add α]
    [Mul α]
    [Neg α] :
    (∀ a b s : Expression α, a.add b = .ok s →
      s.ids = a.ids ++ b.ids.filter fun id => id ∉ a.ids)
      ∧
    ((∀ (a : Expression α) (factor : α), (a.scale factor).ids = a.ids) ∧
      (∀ e : Affine α, e.folded.ids = e.ids) ∧
      (∀ e : Quadratic α, e.folded.ids = e.ids ∧ e.affinePart.ids = e.ids) ∧
      (∀ a : ScalarExpr α, a.toQuadratic.ids = a.ids ∧ ∀ e, a.toAffine? = some e → e.ids = a.ids) ∧
      ∀ e : VectorExpr α, e.toAffine.ids = e.ids ∧
        ∀ i s, e.component i = .ok s → ∀ id ∈ s.ids, id ∈ e.ids)
      ∧
    ∀ (m : Model α) (values : List (Value α)), m.BuiltFromOwn values →
      ∀ (solver : Solver α) (trace : Trace α) (made : List (Call α)),
        ((m.optimize solver).runFrom trace).2.calls = trace.calls ++ made →
          m.PassesVariables solver trace.calls made := by
  refine ⟨fun a b s => Expression.ids_of_add, ⟨Expression.ids_scale, Affine.ids_folded, ?_, ?_, ?_⟩,
    fun m values h solver trace made => h.passesVariables⟩
  · intro e
    exact ⟨e.ids_folded, e.ids_affinePart⟩
  · intro a
    rw [ScalarExpr.ids_eq_ids_vars]
    exact ⟨congrArg Basis.ids a.vars_toQuadratic,
      fun e he => congrArg Basis.ids (ScalarExpr.vars_toAffine? he)⟩
  · intro e
    have hids : e.ids = e.basis.ids := Expression.ids_eq_ids_vars (.vector e)
    refine ⟨?_, fun i s hs id => VectorExpr.mem_ids_of_component hs⟩
    rw [hids]
    exact congrArg Basis.ids e.vars_toAffine

namespace Model

/-- A variable with an upper bound, which is also to be made large. -/
def boundedAbove : Model ℚ :=
  ((empty.addVariable .free).2.addComparison
      ((Expression.scalar (.var (VariableDomain.free.handle 0))).compare .lessEqual
        (.scalar (.constant 1)))).2.setObjective
    { direction := .maximize, expression := .var (VariableDomain.free.handle 0) }

/-- A solver that refuses nothing is passed the variable of this model. -/
theorem no_variable_lost_boundedAbove :
    ∃ values, boundedAbove.BuiltFromOwn values ∧
      ∃ made, ((boundedAbove.optimize accommodating).runFrom .empty).2.calls = [] ++ made ∧
        boundedAbove.PassesVariables accommodating [] made ∧
          made.filterMap Call.sentVariable? = boundedAbove.vars := by
  have hvariable : (Operation.call (.make (.var (VariableDomain.free.handle 0)))).reply []
      = .ok (.answer (.one (.ofScalar (.var (VariableDomain.free.handle 0) : ScalarExpr ℚ)))) := rfl
  have hconstant : (Operation.call (.make (.constant 1))).reply
      [.ofScalar (.var (VariableDomain.free.handle 0))]
        = .ok (.answer (.one (.ofScalar (.constant 1 : ScalarExpr ℚ)))) := rfl
  have hheld := (BuiltFromOwn.carryOut (.addVariable .free .empty) (fun v hv => hv)
    hvariable).carryOut (fun v hv => (by cases hv)) hconstant
  have hbuilt := (hheld.addComparison (List.mem_cons_self ..) .lessEqual
    (List.mem_cons_of_mem _ (List.mem_cons_self ..))).setObjective .maximize (List.mem_cons_self ..)
  obtain ⟨-, -, hruns⟩ := no_variable_lost (α := ℚ)
  have hpasses := hruns boundedAbove _ hbuilt accommodating .empty _ rfl
  refine ⟨_, hbuilt, _, rfl, hpasses, hpasses.all ?_⟩
  intro before call after hsplit _
  exact acceptsAll_accommodating [] _ before call after hsplit

/-- A solver that refuses every call. -/
def unwilling : Solver ℚ where
  accepts := fun _ _ => .error (.reported "refused")
  solve := fun _ => .error (.reported "refused")

/-- A solver that refuses the first call is not passed the variable of a model. -/
theorem variable_not_passed :
    ¬ ∀ (m : Model ℚ) (values : List (Value ℚ)), m.BuiltFromOwn values →
      ∀ (solver : Solver ℚ) (trace : Trace ℚ) (made : List (Call ℚ)),
        ((m.optimize solver).runFrom trace).2.calls = trace.calls ++ made →
          ∀ v ∈ m.vars, (made.filterMap Call.sentVariable?).countP (fun w => w.id == v.id) = 1 := by
  intro h
  have honce := h (empty.addVariable .binary).2 [] (.addVariable .binary .empty) unwilling .empty
    [.showLog false, .delete] rfl _ (List.mem_singleton_self _)
  exact absurd honce Nat.zero_ne_one

end Model

end Calls

end MathProgram

import MathProgram.Solver

/-!
# Sessions as scripts

What a session does to a solver can be written down beforehand as a script: a
list of calls to send and events to emit.  A script is played up to and
including the first call that the solver refuses; nothing after it happens.

**Composition.**  `Plays` relates a session to its script.  Sessions that are
run one after another play their scripts one after another, so that the script
of a long session is put together from those of its parts.

**Results.**
* `play_cases`: a script is either played in full, or stops at a refused call.
-/

namespace MathProgram

section Script

variable {α : Type}

/-- One line of a script. -/
inductive Action (α : Type) where
  | send (call : Call α)
  | report (event : Event α)

namespace Action

/-- The call that a line sends, if it sends one. -/
def call? : Action α → Option (Call α)
  | send call => some call
  | report _ => none

end Action

section Refusals

variable {ε δ β : Type}

theorem mapError_ok
    (f : ε → δ)
    (b : β) :
    (Except.ok b : Except ε β).mapError f = .ok b := by
  rfl

theorem mapError_error
    (f : ε → δ)
    (cause : ε) :
    (Except.error cause : Except ε β).mapError f = .error (f cause) := by
  rfl

end Refusals

namespace Trace

/-- The trace after one more call. -/
def addCall
    (trace : Trace α)
    (call : Call α) :
    Trace α :=
  { trace with calls := trace.calls ++ [call] }

/-- The trace after one more event. -/
def addEvent
    (trace : Trace α)
    (event : Event α) :
    Trace α :=
  { trace with events := trace.events ++ [event] }

@[simp] theorem calls_addCall
    (trace : Trace α)
    (call : Call α) :
    (trace.addCall call).calls = trace.calls ++ [call] := by
  rfl

@[simp] theorem calls_addEvent
    (trace : Trace α)
    (event : Event α) :
    (trace.addEvent event).calls = trace.calls := by
  rfl

end Trace

namespace Solver

/-- Play a script: send its calls and emit its events, up to the first refusal. -/
def play
    (solver : Solver α)
    (trace : Trace α) :
    List (Action α) → Except SolverError Unit × Trace α
  | [] => (.ok (), trace)
  | .report event :: rest => solver.play (trace.addEvent event) rest
  | .send call :: rest =>
    match solver.answer trace.calls call with
    | .ok _ => solver.play (trace.addCall call) rest
    | .error cause => (.error cause, trace.addCall call)

/-- Every call of a list is accepted when the calls are sent one after another. -/
def AcceptsAll
    (solver : Solver α)
    (history calls : List (Call α)) :
    Prop :=
  ∀ before call after, calls = before ++ call :: after →
    ∃ reply, solver.answer (history ++ before) call = .ok reply

theorem acceptsAll_nil
    (solver : Solver α)
    (history : List (Call α)) :
    solver.AcceptsAll history [] := by
  intro before call after h
  simp at h

theorem acceptsAll_cons_iff
    {solver : Solver α}
    {history : List (Call α)}
    {call : Call α}
    {calls : List (Call α)} :
    solver.AcceptsAll history (call :: calls)
      ↔
    (∃ reply, solver.answer history call = .ok reply) ∧
      solver.AcceptsAll (history ++ [call]) calls := by
  constructor
  · intro h
    refine ⟨?_, ?_⟩
    · simpa using h [] call calls rfl
    · intro before next after hsplit
      have hnext := h (call :: before) next after (by simp [hsplit])
      simpa using hnext
  · rintro ⟨hcall, hcalls⟩ before next after hsplit
    cases before with
    | nil =>
      obtain ⟨rfl, _⟩ := List.cons.inj hsplit
      simpa using hcall
    | cons first before =>
      obtain ⟨rfl, htail⟩ := List.cons.inj hsplit
      simpa using hcalls before next after htail

/-- A script continues after its first part unless that part was refused. -/
theorem play_append
    (solver : Solver α)
    (trace : Trace α)
    (first second : List (Action α)) :
    solver.play trace (first ++ second)
      =
    match solver.play trace first with
    | (.ok _, later) => solver.play later second
    | (.error cause, later) => (.error cause, later) := by
  induction first generalizing trace with
  | nil =>
    rfl
  | cons line first ih =>
    cases line with
    | report event =>
      exact ih (trace.addEvent event)
    | send call =>
      simp only [List.cons_append, play]
      cases solver.answer trace.calls call with
      | ok reply => exact ih (trace.addCall call)
      | error cause => rfl

/--
A script is played in full when all of its calls are accepted.  Otherwise it
ends with the first call that is refused, and with the reason for it.
-/
theorem play_cases
    (solver : Solver α)
    (trace : Trace α)
    (script : List (Action α)) :
    (solver.AcceptsAll trace.calls (script.filterMap Action.call?) ∧
      (solver.play trace script).1 = .ok () ∧
      (solver.play trace script).2.calls = trace.calls ++ script.filterMap Action.call?)
      ∨
    (∃ before call after cause,
      script.filterMap Action.call? = before ++ call :: after ∧
      solver.AcceptsAll trace.calls before ∧
      solver.answer (trace.calls ++ before) call = .error cause ∧
      (solver.play trace script).1 = .error cause ∧
      (solver.play trace script).2.calls = trace.calls ++ before ++ [call]) := by
  induction script generalizing trace with
  | nil =>
    exact .inl ⟨acceptsAll_nil solver _, rfl, by simp [play]⟩
  | cons line script ih =>
    cases line with
    | report event =>
      exact ih (trace.addEvent event)
    | send call =>
      simp only [play, List.filterMap_cons, Action.call?]
      cases hanswer : solver.answer trace.calls call with
      | error cause =>
        refine .inr ⟨[], call, _, cause, rfl, acceptsAll_nil solver _, ?_, rfl, ?_⟩
        · simpa using hanswer
        · simp
      | ok reply =>
        rcases ih (trace.addCall call) with
          ⟨haccepts, hresult, hcalls⟩ | ⟨before, next, after, cause, hsplit, haccepts, hrest⟩
        · refine .inl ⟨acceptsAll_cons_iff.mpr ⟨⟨reply, hanswer⟩, haccepts⟩, hresult, ?_⟩
          simp [hcalls]
        · obtain ⟨hnext, hresult, hcalls⟩ := hrest
          refine .inr ⟨call :: before, next, after, cause, ?_, ?_, ?_, hresult, ?_⟩
          · simp [hsplit]
          · exact acceptsAll_cons_iff.mpr ⟨⟨reply, hanswer⟩, haccepts⟩
          · simpa using hnext
          · simp [hcalls]

end Solver

end Script

section Plays

variable {α ε β γ : Type}

/-- The outcome of a session and the trace it leaves. -/
def Session.runFrom
    (session : Session α ε β)
    (trace : Trace α) :
    Except ε β × Trace α :=
  session.run.run trace

/-- A session that plays a script and then returns a value. -/
def Session.Plays
    (session : Session α ε β)
    (solver : Solver α)
    (ofRefusal : SolverError → ε)
    (script : List (Action α))
    (result : β) :
    Prop :=
  ∀ trace, session.runFrom trace
    =
  (((solver.play trace script).1.mapError ofRefusal).map fun _ => result,
    (solver.play trace script).2)

namespace Session

theorem runFrom_bind
    (session : Session α ε β)
    (next : β → Session α ε γ)
    (trace : Trace α) :
    runFrom (session >>= next) trace
      =
    match session.runFrom trace with
    | (.ok b, later) => (next b).runFrom later
    | (.error e, later) => (.error e, later) := by
  show StateT.run (ExceptT.run (session >>= next)) trace = _
  rw [ExceptT.run_bind, StateT.run_bind]
  rcases hrun : session.runFrom trace with ⟨outcome, later⟩
  have hrun' : StateT.run (ExceptT.run session) trace = (outcome, later) := hrun
  rw [hrun']
  cases outcome <;> rfl

variable {solver : Solver α} {ofRefusal : SolverError → ε}

theorem plays_pure
    (b : β) :
    Plays (pure b : Session α ε β) solver ofRefusal [] b := by
  intro trace
  rfl

/-- Sessions one after another play their scripts one after another. -/
theorem Plays.bind
    {session : Session α ε β}
    {next : β → Session α ε γ}
    {first second : List (Action α)}
    {b : β}
    {c : γ}
    (hfirst : session.Plays solver ofRefusal first b)
    (hsecond : (next b).Plays solver ofRefusal second c) :
    Plays (session >>= next) solver ofRefusal (first ++ second) c := by
  intro trace
  rw [runFrom_bind, hfirst trace, Solver.play_append]
  rcases solver.play trace first with ⟨outcome, later⟩
  cases outcome with
  | error cause => rfl
  | ok u => exact hsecond later

/-- Emitting an event plays that event. -/
theorem plays_emit
    (event : Event α) :
    Plays (ExceptT.lift (emit event) : Session α ε Unit) solver ofRefusal [.report event] () := by
  intro trace
  rfl

/-- Sessions for the entries of a list play their scripts in the order of the list. -/
theorem plays_forM
    (entries : List β)
    {session : β → Session α ε Unit}
    {script : β → List (Action α)}
    (h : ∀ b, (session b).Plays solver ofRefusal (script b) ()) :
    Plays (entries.forM session) solver ofRefusal (entries.flatMap script) () := by
  induction entries with
  | nil =>
    exact plays_pure ()
  | cons b entries ih =>
    exact Plays.bind (h b) ih

/-- A fold of sessions over a list plays their scripts in the order of the list. -/
theorem plays_foldlM
    (entries : List β)
    {session : γ → β → Session α ε γ}
    {script : β → List (Action α)}
    {step : γ → β → γ}
    (h : ∀ c b, (session c b).Plays solver ofRefusal (script b) (step c b))
    (c : γ) :
    Plays (entries.foldlM session c) solver ofRefusal (entries.flatMap script)
      (entries.foldl step c) := by
  induction entries generalizing c with
  | nil =>
    exact plays_pure c
  | cons b entries ih =>
    rw [List.foldlM_cons]
    exact Plays.bind (h c b) (ih (step c b))

end Session

end Plays

end MathProgram

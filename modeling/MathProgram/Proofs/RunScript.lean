import MathProgram.Model.Run
import MathProgram.Proofs.Guard
import MathProgram.Proofs.Rows
import MathProgram.Proofs.Session

/-!
# The script of a run

Handing a model over plays a script that can be read off the model: its opening
calls, one event that counts what was sent, and its closing calls.  A run
continues with the request to optimise, and the guard around it ends with the
deletion of the solver, whatever happened before.

**Results.**
* `plays_load`: handing a model over plays its script.
* `runFrom_attempt`: what a run does before the solver is deleted.
* `runFrom_guarded`: the deletion at the end of a guarded session.
-/

namespace MathProgram

section Calls

variable {α : Type} {solver : Solver α}

theorem filterMap_call?_send
    (calls : List (Call α)) :
    (calls.map Action.send).filterMap Action.call? = calls := by
  induction calls with
  | nil => rfl
  | cons call calls ih => simpa [Action.call?] using ih

/-- Playing calls emits nothing. -/
theorem Solver.events_play_send
    (solver : Solver α)
    (trace : Trace α)
    (calls : List (Call α)) :
    (solver.play trace (calls.map .send)).2.events = trace.events := by
  induction calls generalizing trace with
  | nil => rfl
  | cons call calls ih =>
    simp only [List.map_cons, play]
    cases solver.answer trace.calls call with
    | ok reply => exact ih (trace.addCall call)
    | error cause => rfl

/-- Calls are played in full, or up to the first one that is refused. -/
theorem Solver.play_send_cases
    (solver : Solver α)
    (trace : Trace α)
    (calls : List (Call α)) :
    (solver.AcceptsAll trace.calls calls ∧
      solver.play trace (calls.map .send) = (.ok (), { trace with calls := trace.calls ++ calls }))
      ∨
    (∃ before call after cause,
      calls = before ++ call :: after ∧
      solver.AcceptsAll trace.calls before ∧
      solver.answer (trace.calls ++ before) call = .error cause ∧
      solver.play trace (calls.map .send)
        = (.error cause, { trace with calls := trace.calls ++ before ++ [call] })) := by
  have hevents := solver.events_play_send trace calls
  have hcases := solver.play_cases trace (calls.map .send)
  rw [filterMap_call?_send] at hcases
  rcases hplay : solver.play trace (calls.map .send) with ⟨outcome, made, events⟩
  rw [hplay] at hevents hcases
  obtain rfl : events = trace.events := hevents
  rcases hcases with ⟨haccepts, rfl, rfl⟩ | ⟨before, call, after, cause, hsplit, hrest⟩
  · exact .inl ⟨haccepts, rfl⟩
  · obtain ⟨haccepts, hrefused, rfl, rfl⟩ := hrest
    exact .inr ⟨before, call, after, cause, hsplit, haccepts, hrefused, rfl⟩

/-- A call that is no request to optimise is answered by accepting or refusing it. -/
theorem Solver.answer_of_ne_optimize
    {history : List (Call α)}
    {call : Call α}
    (h : call ≠ .optimize) :
    solver.answer history call = (solver.accepts history call).map fun _ => none := by
  cases call with
  | optimize => exact absurd rfl h
  | _ => rfl

/-- A count that goes up by one at each entry goes up by their number. -/
theorem foldl_count
    {β : Type}
    (entries : List β)
    (sent : Int32) :
    entries.foldl (fun sent _ => sent + 1) sent = sent + Int32.ofNat entries.length := by
  induction entries generalizing sent with
  | nil => exact (Int32.add_zero sent).symm
  | cons b entries ih =>
    rw [List.foldl_cons, ih, List.length_cons, Int32.ofNat_add, Int32.add_assoc, Int32.add_comm 1]
    rfl

namespace Session

theorem runFrom_submit
    (call : Call α)
    (trace : Trace α) :
    (solver.submit call).runFrom trace
      =
    (solver.accepts trace.calls call, trace.addCall call) := by
  rfl

theorem plays_submit
    (solver : Solver α)
    {call : Call α}
    (h : call ≠ .optimize) :
    (solver.submit call).Plays solver id [.send call] () := by
  intro trace
  rw [runFrom_submit]
  simp only [Solver.play, Solver.answer_of_ne_optimize h]
  cases solver.accepts trace.calls call <;> rfl

/-- Reading refusals as failures of another kind keeps the script. -/
theorem Plays.adapt
    {ε β : Type}
    {session : Session α SolverError β}
    {script : List (Action α)}
    {b : β}
    (h : session.Plays solver id script b)
    (ofRefusal : SolverError → ε) :
    Plays (ExceptT.adapt ofRefusal session : Session α ε β) solver ofRefusal script b := by
  intro trace
  have hrun : runFrom (ExceptT.adapt ofRefusal session : Session α ε β) trace
      = ((session.runFrom trace).1.mapError ofRefusal, (session.runFrom trace).2) := rfl
  rw [hrun, h trace]
  cases (solver.play trace script).1 <;> rfl

theorem plays_tell
    (solver : Solver α)
    {call : Call α}
    (h : call ≠ .optimize) :
    (Model.tell solver call).Plays solver RunError.solver [.send call] () :=
  (plays_submit solver h).adapt RunError.solver

theorem plays_addVariables
    (solver : Solver α)
    (vars : List Variable) :
    (solver.addVariables vars).Plays solver id (vars.map fun v => .send (.addVariable v)) () := by
  have hone (v : Variable) :
      (solver.submit (.addVariable v)).Plays solver id [.send (.addVariable v)] () :=
    plays_submit solver (by simp)
  have hall := plays_forM vars hone
  rwa [← List.map_eq_flatMap] at hall

/-- Sending the rows of constraints plays one call per row and counts the calls. -/
theorem plays_sendRows
    (solver : Solver α)
    (sent : Int32)
    (constraints : List (Constraint α)) :
    (Model.sendRows solver sent constraints).Plays solver RunError.solver
      ((constraints.flatMap Constraint.scalarRows).map fun row => .send (.addConstraint row))
      (sent + Int32.ofNat (constraints.flatMap Constraint.scalarRows).length) := by
  induction constraints generalizing sent with
  | nil =>
    have hnone : sent + Int32.ofNat 0 = sent := Int32.add_zero sent
    rw [List.flatMap_nil, List.length_nil, hnone]
    exact plays_pure sent
  | cons c rest ih =>
    have hrows : (ExceptT.mk (pure (c.rows.mapError .expression)) : Session α RunError _)
        = pure c.scalarRows := by
      rw [c.rows_eq]
      rfl
    have hone (sent : Int32) (row : ScalarConstraint α) :
        Plays
          (do
            Model.tell solver (.addConstraint row)
            return sent + 1 : Session α RunError Int32)
          solver RunError.solver [.send (.addConstraint row)] (sent + 1) :=
      Plays.bind (plays_tell solver (by simp)) (plays_pure (sent + 1))
    have hsend := plays_foldlM c.scalarRows hone sent
    rw [← List.map_eq_flatMap, foldl_count] at hsend
    unfold Model.sendRows
    rw [hrows, List.flatMap_cons, List.map_append, List.length_append, Int32.ofNat_add,
      ← Int32.add_assoc, pure_bind]
    exact Plays.bind hsend (ih (sent + Int32.ofNat c.scalarRows.length))

end Session

end Calls

namespace Model

section Run

variable {α : Type}

/-- The calls before the constraints and variables are reported. -/
def openingCalls
    (m : Model α) :
    List (Call α) :=
  [.showLog m.showLog]
    ++ (if m.timeLimit = .zero then [] else [.setTimeLimit m.timeLimit.toSeconds])
    ++ m.vars.map .addVariable
    ++ (m.constraints.flatMap Constraint.scalarRows).map .addConstraint

/-- The calls between the report and the request to optimise. -/
def closingCalls
    (m : Model α) :
    List (Call α) :=
  (m.objective.map Call.setObjective).toList

/-- The calls that hand a model over. -/
def loadCalls
    (m : Model α) :
    List (Call α) :=
  m.openingCalls ++ m.closingCalls

/-- Every call of a run that no refusal ends, except for the deletion at its end. -/
def schedule
    (m : Model α) :
    List (Call α) :=
  m.loadCalls ++ [.optimize]

/-- The event that counts what was handed over. -/
def loadEvent
    (m : Model α) :
    Event α :=
  .optimizing m.vars.length m.constraints.length
    (Int32.ofNat (m.constraints.flatMap Constraint.scalarRows).length) m.objectiveVars

/-- What handing a model over does. -/
def loadScript
    (m : Model α) :
    List (Action α) :=
  m.openingCalls.map .send ++ [.report m.loadEvent] ++ m.closingCalls.map .send

theorem filterMap_call?_loadScript
    (m : Model α) :
    m.loadScript.filterMap Action.call? = m.loadCalls := by
  simp only [loadScript, List.filterMap_append, filterMap_call?_send]
  show m.openingCalls ++ [] ++ m.closingCalls = _
  rw [List.append_nil, loadCalls]

/-- The part of the script after the settings. -/
def contentScript
    (m : Model α) :
    List (Action α) :=
  (m.vars.map fun v => .send (.addVariable v))
    ++ ((m.constraints.flatMap Constraint.scalarRows).map fun row => .send (.addConstraint row))
    ++ [.report m.loadEvent] ++ m.closingCalls.map .send

theorem loadScript_eq
    (m : Model α) :
    m.loadScript
      =
    [.send (.showLog m.showLog)]
      ++ ((if m.timeLimit = .zero then [] else [.send (.setTimeLimit m.timeLimit.toSeconds)])
        ++ m.contentScript) := by
  by_cases h : m.timeLimit = .zero <;>
    simp [loadScript, openingCalls, contentScript, h, Function.comp_def]

/-- Hand over the objective, if there is one. -/
def sendObjective
    (m : Model α)
    (solver : Solver α) :
    Session α RunError Unit := do
  if let some objective := m.objective then
    tell solver (.setObjective objective)

theorem plays_sendObjective
    (m : Model α)
    (solver : Solver α) :
    (m.sendObjective solver).Plays solver RunError.solver (m.closingCalls.map .send) () := by
  unfold sendObjective closingCalls
  cases m.objective with
  | none => exact Session.plays_pure ()
  | some objective => exact Session.plays_tell solver (by simp)

/-- Handing a model over plays its script. -/
theorem plays_load
    (m : Model α)
    (solver : Solver α) :
    (m.load solver).Plays solver RunError.solver m.loadScript () := by
  have hcontent :
      Session.Plays
        (do
          ExceptT.adapt RunError.solver (solver.addVariables m.vars)
          let rows ← sendRows solver 0 m.constraints
          ExceptT.lift
            (emit (.optimizing m.vars.length m.constraints.length rows m.objectiveVars))
          m.sendObjective solver : Session α RunError Unit)
        solver RunError.solver m.contentScript () := by
    simp only [contentScript, List.append_assoc]
    refine Session.Plays.bind ((Session.plays_addVariables solver m.vars).adapt RunError.solver) ?_
    have hrows := Session.plays_sendRows solver 0 m.constraints
    rw [Int32.zero_add] at hrows
    refine Session.Plays.bind hrows ?_
    exact Session.Plays.bind (Session.plays_emit m.loadEvent) (m.plays_sendObjective solver)
  rw [loadScript_eq]
  unfold load timeLimitSeconds?
  refine Session.Plays.bind (Session.plays_tell solver (by simp)) ?_
  by_cases h : m.timeLimit = .zero
  · rw [if_pos h, if_pos h]
    exact hcontent
  · rw [if_neg h, if_neg h]
    exact Session.Plays.bind (Session.plays_tell solver (by simp)) hcontent

/-- A run hands the model over and, unless that was refused, asks for a solution. -/
theorem runFrom_attempt
    (m : Model α)
    (solver : Solver α)
    (trace : Trace α) :
    (m.attempt solver).runFrom trace
      =
    match solver.play trace m.loadScript with
    | (.ok _, later) =>
      ((solver.solve later.calls).mapError .solver, later.addCall .optimize)
    | (.error cause, later) => (.error (.solver cause), later) := by
  unfold attempt
  rw [Session.runFrom_bind, m.plays_load solver trace]
  rcases solver.play trace m.loadScript with ⟨outcome, later⟩
  cases outcome with
  | error cause => rfl
  | ok u => rfl

end Run

end Model

section Guarded

variable {α ε β : Type}

theorem Solver.run_forM_reportRefusal
    (causes : List SolverError)
    (trace : Trace α) :
    StateT.run (forM causes reportRefusal) trace
      =
    ((), { trace with events := trace.events ++ causes.map .deleteFailed }) := by
  induction causes generalizing trace with
  | nil =>
    rw [List.map_nil, List.append_nil]
    rfl
  | cons cause causes ih =>
    rw [List.forM_cons, StateT.run_bind]
    refine (ih (trace.addEvent (.deleteFailed cause))).trans ?_
    simp [Trace.addEvent]

/-- A guard ends with one deletion, whose answer decides about the outcome and the events. -/
theorem Solver.runFrom_finish
    (solver : Solver α)
    (ending : Ending)
    (trace : Trace α) :
    (solver.finish ending).runFrom trace
      =
    (ending.outcome (solver.accepts trace.calls .delete),
      { calls := trace.calls ++ [.delete]
        events := trace.events
          ++ (ending.warnings (solver.accepts trace.calls .delete)).map .deleteFailed }) := by
  have hfinish := congrArg (fun session => StateT.run session trace)
    (Guard.finish_new (fun step => (solver.perform step).run) reportRefusal ending)
  have hdelete : StateT.run (solver.perform (.submit .delete)).run trace
      = ((solver.accepts trace.calls .delete).map fun _ => none, trace.addCall .delete) := rfl
  refine hfinish.trans ?_
  rw [StateT.run_bind, hdelete]
  show StateT.run (_ >>= fun _ => pure _) (trace.addCall .delete) = _
  rw [StateT.run_bind, Ending.warnings_map, Ending.outcome_map]
  rw [List.forM_eq_forM, run_forM_reportRefusal]
  rfl

/-- Releasing a solver deletes it, and the outcome is that of the deletion. -/
theorem Solver.runFrom_release
    (solver : Solver α)
    (trace : Trace α) :
    (solver.finish .release).runFrom trace
      =
    (solver.accepts trace.calls .delete, trace.addCall .delete) := by
  rw [runFrom_finish]
  cases solver.accepts trace.calls .delete <;>
    simp [Ending.outcome, Ending.warnings, Except.map, Trace.addCall]

/-- Dropping a solver deletes it, and reports a refused deletion by an event. -/
theorem Solver.runFrom_drop
    (solver : Solver α)
    (trace : Trace α) :
    (solver.finish .drop).runFrom trace
      =
    match solver.accepts trace.calls .delete with
    | .ok _ => (.ok (), trace.addCall .delete)
    | .error cause => (.ok (), (trace.addCall .delete).addEvent (.deleteFailed cause)) := by
  rw [runFrom_finish]
  cases solver.accepts trace.calls .delete <;>
    simp [Ending.outcome, Ending.warnings, Trace.addCall, Trace.addEvent]

/--
A guarded session ends with the deletion of the solver.  A refused deletion is
a failure after a session that succeeded, and an event after one that failed.
-/
theorem Solver.runFrom_guarded
    (solver : Solver α)
    (ofRefusal : SolverError → ε)
    (session : Session α ε β)
    (trace : Trace α) :
    (solver.guarded ofRefusal session).runFrom trace
      =
    match session.runFrom trace with
    | (.ok result, later) =>
      (((solver.accepts later.calls .delete).mapError ofRefusal).map fun _ => result,
        later.addCall .delete)
    | (.error e, later) =>
      match solver.accepts later.calls .delete with
      | .ok _ => (.error e, later.addCall .delete)
      | .error cause => (.error e, (later.addCall .delete).addEvent (.deleteFailed cause)) := by
  rcases hrun : session.runFrom trace with ⟨outcome, later⟩
  have hrun' : StateT.run (ExceptT.run session) trace = (outcome, later) := hrun
  unfold guarded Session.runFrom
  rw [ExceptT.run_mk, StateT.run_bind, hrun']
  cases outcome with
  | ok result =>
    have hrelease : StateT.run (ExceptT.run (solver.finish .release)) later
        = (solver.accepts later.calls .delete, later.addCall .delete) :=
      solver.runFrom_release later
    show StateT.run (ExceptT.run (solver.finish .release) >>= _) later = _
    rw [StateT.run_bind, hrelease]
    cases hdelete : solver.accepts later.calls .delete <;> simp only [hdelete] <;> rfl
  | error e =>
    show StateT.run (ExceptT.run (solver.finish .drop) >>= _) later = _
    rw [StateT.run_bind]
    have hdrop := solver.runFrom_drop later
    unfold Session.runFrom at hdrop
    rw [hdrop]
    cases hdelete : solver.accepts later.calls .delete <;> simp only [hdelete] <;> rfl

end Guarded

end MathProgram

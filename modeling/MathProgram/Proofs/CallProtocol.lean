import MathProgram.Proofs.RunScript
import MathProgram.Proofs.Store

/-!
# The call protocol of a run

A solver that refuses nothing receives the schedule of the model and is then
deleted.  Any other solver receives the schedule up to and including the first
call that it refuses, and is then deleted.

**Which error wins.**  A refused call of the schedule is the error of the run,
also when the solver refuses its deletion.  After a complete schedule a refused
deletion is the error, and after an accepted one a status that is not optimal.

**Results.**
* `optimize_cases`: a run completes or stops at the first refusal.
* `optimize_call_protocol`: the calls and the outcome of every run.
-/

namespace MathProgram

namespace Model

section Outcome

variable {α : Type}

/-- What a completed run returns: the solution, unless deletion or status forbid it. -/
def completedOutcome
    (deletion : Except SolverError Unit)
    (solution : Solution α) :
    Except RunError (Solution α) :=
  match deletion with
  | .error cause => .error (.solver cause)
  | .ok _ =>
    if solution.status = .optimal then
      .ok solution
    else
      .error (.notOptimal solution.status)

/-- A run in which every call of the schedule was accepted. -/
structure Completes
    (m : Model α)
    (solver : Solver α)
    (trace : Trace α)
    (solution : Solution α)
    (run : Except RunError (Solution α) × Trace α) :
    Prop where
  accepted : solver.AcceptsAll trace.calls m.loadCalls
  solved : solver.solve (trace.calls ++ m.loadCalls) = .ok solution
  calls : run.2.calls = trace.calls ++ m.schedule ++ [.delete]
  outcome : run.1 = completedOutcome (solver.accepts (trace.calls ++ m.schedule) .delete) solution

/-- A run that a refused call of the schedule ended. -/
structure StopsAt
    (m : Model α)
    (solver : Solver α)
    (trace : Trace α)
    (before : List (Call α))
    (call : Call α)
    (cause : SolverError)
    (run : Except RunError (Solution α) × Trace α) :
    Prop where
  scheduled : before ++ [call] <+: m.schedule
  accepted : solver.AcceptsAll trace.calls before
  refused : solver.answer (trace.calls ++ before) call = .error cause
  calls : run.2.calls = trace.calls ++ before ++ [call] ++ [.delete]
  outcome : run.1 = .error (.solver cause)

/-- Up to its deletion a solver is asked for the whole schedule, or up to a refusal. -/
theorem attempt_cases
    (m : Model α)
    (solver : Solver α)
    (trace : Trace α) :
    (∃ solution,
      solver.AcceptsAll trace.calls m.loadCalls ∧
      solver.solve (trace.calls ++ m.loadCalls) = .ok solution ∧
      ((m.attempt solver).runFrom trace).1 = .ok solution ∧
      ((m.attempt solver).runFrom trace).2.calls = trace.calls ++ m.schedule)
      ∨
    (∃ before call cause,
      before ++ [call] <+: m.schedule ∧
      solver.AcceptsAll trace.calls before ∧
      solver.answer (trace.calls ++ before) call = .error cause ∧
      ((m.attempt solver).runFrom trace).1 = .error (.solver cause) ∧
      ((m.attempt solver).runFrom trace).2.calls = trace.calls ++ before ++ [call]) := by
  have hcases := solver.play_cases trace m.loadScript
  rw [filterMap_call?_loadScript] at hcases
  rw [runFrom_attempt]
  rcases hplay : solver.play trace m.loadScript with ⟨outcome, later⟩
  rw [hplay] at hcases
  rcases hcases with ⟨haccepts, rfl, hcalls⟩ | ⟨before, call, after, cause, hsplit, hrest⟩
  · dsimp only at hcalls ⊢
    cases hsolve : solver.solve later.calls with
    | ok solution =>
      refine .inl ⟨solution, haccepts, hcalls ▸ hsolve, rfl, ?_⟩
      simp [hcalls, schedule]
    | error cause =>
      refine .inr ⟨m.loadCalls, .optimize, cause, List.prefix_rfl, haccepts, ?_, rfl, ?_⟩
      · simp [Solver.answer, ← hcalls, hsolve, Except.map]
      · simp [hcalls]
  · obtain ⟨haccepts, hrefused, rfl, hcalls⟩ := hrest
    refine .inr ⟨before, call, cause, ?_, haccepts, hrefused, rfl, hcalls⟩
    rw [schedule, hsplit]
    exact ⟨after ++ [.optimize], by simp⟩

/-- With a variable a run is a guarded attempt, whose solution is reported and judged. -/
theorem runFrom_optimize
    {m : Model α}
    (h : m.vars ≠ [])
    (solver : Solver α)
    (trace : Trace α) :
    (m.optimize solver).runFrom trace
      =
    match (solver.guarded RunError.solver (m.attempt solver)).runFrom trace with
    | (.ok solution, later) =>
      (completedOutcome (.ok ()) solution,
        later.addEvent (.finished solution.status solution.objective))
    | (.error e, later) => (.error e, later) := by
  have hvars : m.vars.isEmpty = false := by
    simpa using h
  unfold optimize
  rw [hvars]
  show Session.runFrom
      (solver.guarded RunError.solver (m.attempt solver) >>= fun solution =>
        ExceptT.lift (emit (.finished solution.status solution.objective)) >>= fun _ =>
          if solution.status = .optimal then pure solution
          else throw (.notOptimal solution.status)) trace = _
  rw [Session.runFrom_bind]
  rcases (solver.guarded RunError.solver (m.attempt solver)).runFrom trace with ⟨outcome, later⟩
  cases outcome with
  | error e => rfl
  | ok solution =>
    by_cases hstatus : solution.status = .optimal <;> simp only [hstatus, completedOutcome] <;> rfl

/-- A run either completes or stops at the first call that is refused. -/
theorem optimize_cases
    {m : Model α}
    (h : m.vars ≠ [])
    (solver : Solver α)
    (trace : Trace α) :
    (∃ solution, m.Completes solver trace solution ((m.optimize solver).runFrom trace))
      ∨
    (∃ before call cause,
      m.StopsAt solver trace before call cause ((m.optimize solver).runFrom trace)) := by
  rw [runFrom_optimize h, Solver.runFrom_guarded]
  have hattempt := m.attempt_cases solver trace
  rcases hrun : (m.attempt solver).runFrom trace with ⟨outcome, later⟩
  rw [hrun] at hattempt
  rcases hattempt with ⟨solution, haccepts, hsolve, rfl, hcalls⟩ | ⟨before, call, cause, hrest⟩
  · refine .inl ⟨solution, haccepts, hsolve, ?_, ?_⟩ <;> rw [← hcalls] <;> dsimp only
    · cases hdelete : solver.accepts later.calls .delete <;>
        simp [mapError_ok, mapError_error, Except.map]
    · cases hdelete : solver.accepts later.calls .delete <;>
        simp [mapError_ok, mapError_error, Except.map, completedOutcome]
  · obtain ⟨hscheduled, haccepts, hrefused, rfl, hcalls⟩ := hrest
    refine .inr ⟨before, call, cause, hscheduled, haccepts, hrefused, ?_, ?_⟩
    · rw [← hcalls]
      dsimp only
      cases hdelete : solver.accepts later.calls .delete <;> simp
    · dsimp only
      cases hdelete : solver.accepts later.calls .delete <;> simp

theorem optimize_of_vars_eq_nil
    {m : Model α}
    (h : m.vars = [])
    (solver : Solver α)
    (trace : Trace α) :
    (m.optimize solver).runFrom trace = (.error .noVariables, trace) := by
  unfold optimize
  rw [h]
  rfl

/-- The deletion of a solver is no call of the schedule. -/
theorem delete_not_mem_schedule
    (m : Model α) :
    Call.delete ∉ m.schedule := by
  have hlimit :
      (.delete : Call α) ∉
        if m.timeLimit = .zero then [] else [.setTimeLimit m.timeLimit.toSeconds] := by
    split <;> simp
  simp [schedule, loadCalls, openingCalls, closingCalls, hlimit]

/--
The call protocol.  Without a variable no call is made.  With one, the calls of
a run are the schedule of the model, cut after the first refused call, and one
deletion; the schedule lists the variables by their identifiers and the rows of
the constraints as stored.
-/
theorem optimize_call_protocol
    (m : Model α)
    (solver : Solver α)
    (trace : Trace α) :
    (m.vars = [] → (m.optimize solver).runFrom trace = (.error .noVariables, trace)) ∧
    (m.vars ≠ [] →
      (∃ solution, m.Completes solver trace solution ((m.optimize solver).runFrom trace)) ∨
      ∃ before call cause,
        m.StopsAt solver trace before call cause ((m.optimize solver).runFrom trace)) ∧
    Call.delete ∉ m.schedule ∧
    (m.Built → m.vars.map Variable.id = List.range m.vars.length) ∧
    ∀ c ∈ m.constraints, c.rows = .ok c.scalarRows := by
  refine ⟨?_, ?_, m.delete_not_mem_schedule, ?_, ?_⟩
  · intro h
    exact optimize_of_vars_eq_nil h solver trace
  · intro h
    exact optimize_cases h solver trace
  · intro hbuilt
    exact hbuilt.map_id_vars
  · intro c _
    exact c.rows_eq

end Outcome

end Model

end MathProgram

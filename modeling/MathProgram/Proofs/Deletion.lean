import MathProgram.Proofs.SentRows

/-!
# The deletion of a solver

A solver that was handed to a run is deleted once, and no call follows.  This is
the work of the guard alone: whatever a session does and however it ends, one
deletion comes after it, and a refused deletion is not tried again.  So it is
enough that the session itself deletes nothing.

**Models without variables.**  They are refused before there is a guard.  Their
runs make no call, and so no deletion either.

**Results.**
* `Solver.calls_guarded`: the calls of a guarded session.
* `Model.optimize_deletes_once`: the deletion in every run of every model.
-/

namespace MathProgram

section Guards

variable {α ε β : Type}

/-- Calls of which the last one, and no other, deletes the solver. -/
def DeletedOnce
    (made : List (Call α)) :
    Prop :=
  ∃ before, made = before ++ [.delete] ∧ Call.delete ∉ before

/-- Wherever a session starts, it deletes nothing. -/
def Session.KeepsSolver
    (session : Session α ε β) :
    Prop :=
  ∀ trace, ∃ sent, (session.runFrom trace).2.calls = trace.calls ++ sent ∧ Call.delete ∉ sent

/-- The guard makes one more call than its session, whether the session fails or not. -/
theorem Solver.calls_guarded
    (solver : Solver α)
    (ofRefusal : SolverError → ε)
    (session : Session α ε β)
    (trace : Trace α) :
    ((solver.guarded ofRefusal session).runFrom trace).2.calls
      =
    (session.runFrom trace).2.calls ++ [.delete] := by
  rw [runFrom_guarded]
  rcases session.runFrom trace with ⟨outcome, later⟩
  cases outcome with
  | ok result => rfl
  | error e =>
    -- A refused deletion adds an event and no call.
    dsimp only
    cases hdelete : solver.accepts later.calls .delete <;> rfl

theorem Session.KeepsSolver.deletedOnce_guarded
    {session : Session α ε β}
    (h : session.KeepsSolver)
    (solver : Solver α)
    (ofRefusal : SolverError → ε)
    (trace : Trace α) :
    ∃ made, ((solver.guarded ofRefusal session).runFrom trace).2.calls = trace.calls ++ made ∧
      DeletedOnce made := by
  obtain ⟨sent, hcalls, hkeeps⟩ := h trace
  refine ⟨sent ++ [.delete], ?_, sent, rfl, hkeeps⟩
  rw [Solver.calls_guarded, hcalls, List.append_assoc]

end Guards

namespace Model

section Runs

variable {α : Type}

/-- Handing a model over and asking for a solution deletes nothing. -/
theorem keepsSolver_attempt
    (m : Model α)
    (solver : Solver α) :
    (m.attempt solver).KeepsSolver := by
  intro trace
  rcases m.attempt_cases solver trace with
    ⟨_, _, _, _, hcalls⟩ | ⟨before, call, _, hscheduled, _, _, _, hcalls⟩
  · exact ⟨m.schedule, hcalls, m.delete_not_mem_schedule⟩
  · refine ⟨before ++ [call], by rw [hcalls, List.append_assoc], ?_⟩
    exact fun hdelete => m.delete_not_mem_schedule (hscheduled.subset hdelete)

/-- After the guard a run only reports. -/
theorem calls_optimize_eq_guarded
    {m : Model α}
    (h : m.vars ≠ [])
    (solver : Solver α)
    (trace : Trace α) :
    ((m.optimize solver).runFrom trace).2.calls
      =
    ((solver.guarded RunError.solver (m.attempt solver)).runFrom trace).2.calls := by
  rw [runFrom_optimize h]
  rcases (solver.guarded RunError.solver (m.attempt solver)).runFrom trace with ⟨outcome, later⟩
  cases outcome <;> rfl

/--
With a variable every run deletes its solver once and calls it no more, whatever
the solver refuses and whichever status it returns.  Without one no run makes any
call.
-/
theorem optimize_deletes_once
    (m : Model α)
    (solver : Solver α)
    (trace : Trace α) :
    ∃ made, ((m.optimize solver).runFrom trace).2.calls = trace.calls ++ made ∧
      (m.vars ≠ [] → DeletedOnce made) ∧ (m.vars = [] → made = []) := by
  by_cases h : m.vars = []
  · refine ⟨[], ?_, fun hne => absurd h hne, fun _ => rfl⟩
    rw [optimize_of_vars_eq_nil h, List.append_nil]
  · obtain ⟨made, hcalls, hdeleted⟩ :=
      (m.keepsSolver_attempt solver).deletedOnce_guarded solver RunError.solver trace
    exact ⟨made, (calls_optimize_eq_guarded h solver trace).trans hcalls, fun _ => hdeleted,
      fun hnil => absurd hnil h⟩

/-- A model without variables leaves its solver undeleted. -/
theorem empty_not_deleted :
    ¬ ∀ (m : Model ℚ) (solver : Solver ℚ) (trace : Trace ℚ),
      ∃ made, ((m.optimize solver).runFrom trace).2.calls = trace.calls ++ made ∧
        DeletedOnce made := by
  intro h
  obtain ⟨made, hcalls, before, rfl, _⟩ := h empty accommodating .empty
  rw [optimize_of_vars_eq_nil rfl] at hcalls
  exact List.append_ne_nil_of_right_ne_nil before (List.cons_ne_nil _ _) hcalls.symm

end Runs

end Model

end MathProgram

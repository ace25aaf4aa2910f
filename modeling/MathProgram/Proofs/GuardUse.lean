import MathProgram.Proofs.Guard
import MathProgram.Proofs.RunScript

/-!
# The use of a solver through a guard

The owner of a guard takes any steps in any order, explicit deletions among them, and
each of them is accepted or refused as the solver pleases.  In the end the guard is
released or dropped.  Whatever happened before, one more deletion comes last.

**Solvers of any kind.**  A solver is a machine with states of its own, which takes
every step as one call, also a list of variables.  What it receives through a guard is
read from a diary.

**Solvers that keep a trace.**  They receive a list of variables as one call for each
variable, up to the first one that is refused.  `Solver.Converses` relates the steps
of the owner to their results and to the calls made for them.

**Results.**
* `Solver.run_use`: the use of a guard as a conversation and a deletion.
* `Guard.deletes_once_at_end`: the deletions seen by a guarded solver.
-/

namespace MathProgram

section Conversation

variable {α : Type}

/-- Whether a call deletes the solver. -/
def Call.isDelete : Call α → Bool
  | .delete => true
  | _ => false

/-- Whether a step of the owner deletes the solver. -/
def Step.isDelete : Step α → Bool
  | .submit call => call.isDelete
  | .addVariables _ => false

namespace Solver

/-- The answer to a step after some calls, and the calls made for it. -/
inductive Answers
    (solver : Solver α)
    (history : List (Call α)) :
    Step α → Except SolverError (Option (Solution α)) → List (Call α) → Prop
  | submitted
      (call : Call α) :
      Answers solver history (.submit call) (solver.answer history call) [call]
  | added
      {vars : List Variable}
      (haccepts : solver.AcceptsAll history (vars.map .addVariable)) :
      Answers solver history (.addVariables vars) (.ok none) (vars.map .addVariable)
  | refused
      {before after : List Variable}
      {v : Variable}
      {cause : SolverError}
      (haccepts : solver.AcceptsAll history (before.map .addVariable))
      (hrefused : solver.answer (history ++ before.map .addVariable) (.addVariable v)
        = .error cause) :
      Answers solver history (.addVariables (before ++ v :: after)) (.error cause)
        (before.map .addVariable ++ [.addVariable v])

/-- Steps after some calls, each with its own result, and the calls made for all of them. -/
inductive Converses
    (solver : Solver α) :
    List (Call α) → List (Step α) → List (Except SolverError (Option (Solution α))) →
      List (Call α) → Prop
  | nil
      (history : List (Call α)) :
      Converses solver history [] [] []
  | cons
      {history sent made : List (Call α)}
      {step : Step α}
      {steps : List (Step α)}
      {result : Except SolverError (Option (Solution α))}
      {results : List (Except SolverError (Option (Solution α)))}
      (hstep : solver.Answers history step result sent)
      (hrest : Converses solver (history ++ sent) steps results made) :
      Converses solver history (step :: steps) (result :: results) (sent ++ made)

variable {solver : Solver α}

/-- Only an explicit deletion among the steps deletes the solver. -/
theorem Answers.countP_isDelete
    {history sent : List (Call α)}
    {step : Step α}
    {result : Except SolverError (Option (Solution α))}
    (h : solver.Answers history step result sent) :
    sent.countP Call.isDelete = [step].countP Step.isDelete := by
  cases h with
  | submitted call => rfl
  | added haccepts => simp [Step.isDelete, Call.isDelete]
  | refused haccepts hrefused => simp [Step.isDelete, Call.isDelete]

theorem Converses.countP_isDelete
    {history made : List (Call α)}
    {steps : List (Step α)}
    {results : List (Except SolverError (Option (Solution α)))}
    (h : solver.Converses history steps results made) :
    made.countP Call.isDelete = steps.countP Step.isDelete := by
  induction h with
  | nil history => rfl
  | cons hstep hrest ih =>
    rw [List.countP_append, hstep.countP_isDelete, ih, ← List.countP_append]
    rfl

/-- Variables are sent one by one, and a refusal is the answer to all of them. -/
theorem runFrom_addVariables
    (solver : Solver α)
    (vars : List Variable)
    (trace : Trace α) :
    ∃ result sent,
      solver.Answers trace.calls (.addVariables vars) result sent ∧
      (solver.addVariables vars).runFrom trace
        = (result.map fun _ => (), { trace with calls := trace.calls ++ sent }) := by
  have hplays := Session.plays_addVariables solver vars trace
  have hscript : (vars.map fun v => Action.send (.addVariable v))
      = (vars.map Call.addVariable).map (Action.send (α := α)) := by
    rw [List.map_map]
    rfl
  rcases solver.play_send_cases trace (vars.map Call.addVariable) with
    ⟨haccepts, hplay⟩ | ⟨before, call, after, cause, hsplit, haccepts, hrefused, hplay⟩
  · rw [hscript, hplay] at hplays
    exact ⟨.ok none, _, .added haccepts, hplays⟩
  · rw [hscript, hplay] at hplays
    obtain ⟨first, rest, rfl, rfl, hcall⟩ := List.map_eq_append_iff.mp hsplit
    obtain ⟨v, others, rfl, rfl, rfl⟩ := List.map_eq_cons_iff.mp hcall
    refine ⟨.error cause, _, .refused haccepts hrefused, ?_⟩
    rw [hplays, List.append_assoc]
    rfl

/-- A step is answered, and the trace grows by the calls made for it. -/
theorem runFrom_perform
    (solver : Solver α)
    (step : Step α)
    (trace : Trace α) :
    ∃ result sent,
      solver.Answers trace.calls step result sent ∧
      (solver.perform step).runFrom trace
        = (result, { trace with calls := trace.calls ++ sent }) := by
  cases step with
  | submit call => exact ⟨_, [call], .submitted call, rfl⟩
  | addVariables vars =>
    obtain ⟨result, sent, hanswers, hrun⟩ := solver.runFrom_addVariables vars trace
    refine ⟨result, sent, hanswers, ?_⟩
    rw [perform, Session.runFrom_bind, hrun]
    cases hanswers <;> rfl

/-- Steps are a conversation, and the trace grows by its calls. -/
theorem run_mapM_perform
    (solver : Solver α)
    (steps : List (Step α))
    (trace : Trace α) :
    ∃ results made,
      solver.Converses trace.calls steps results made ∧
      (steps.mapM fun step => (solver.perform step).run).run trace
        = (results, { trace with calls := trace.calls ++ made }) := by
  induction steps generalizing trace with
  | nil =>
    refine ⟨[], [], .nil _, ?_⟩
    rw [List.append_nil]
    rfl
  | cons step steps ih =>
    obtain ⟨result, sent, hanswers, hstep⟩ := solver.runFrom_perform step trace
    obtain ⟨results, made, hconverses, hsteps⟩ := ih { trace with calls := trace.calls ++ sent }
    refine ⟨result :: results, sent ++ made, .cons hanswers hconverses, ?_⟩
    have hfirst : StateT.run (solver.perform step).run trace = _ := hstep
    rw [List.mapM_cons, StateT.run_bind, hfirst]
    show StateT.run (steps.mapM _ >>= fun results => pure (result :: results)) _ = _
    rw [StateT.run_bind, hsteps]
    dsimp only
    rw [List.append_assoc]
    rfl

/-- The use of a guard is a conversation with its solver, which then is deleted. -/
theorem run_use
    (solver : Solver α)
    (steps : List (Step α))
    (ending : Ending)
    (trace : Trace α) :
    ∃ results made last,
      solver.Converses trace.calls steps results made ∧
      last = solver.accepts (trace.calls ++ made) .delete ∧
      (solver.use steps ending).run trace
        =
      ((results, ending.outcome last),
        { calls := trace.calls ++ made ++ [.delete]
          events := trace.events ++ (ending.warnings last).map .deleteFailed }) := by
  obtain ⟨results, made, hconverses, hsteps⟩ := solver.run_mapM_perform steps trace
  refine ⟨results, made, _, hconverses, rfl, ?_⟩
  show StateT.run (steps.mapM (fun step => (solver.perform step).run) >>= _) trace = _
  rw [StateT.run_bind, hsteps]
  show StateT.run ((solver.finish ending).run >>= fun outcome => pure (results, outcome)) _ = _
  have hfinish : StateT.run (solver.finish ending).run { trace with calls := trace.calls ++ made }
      = _ :=
    solver.runFrom_finish ending _
  rw [StateT.run_bind, hfinish]
  rfl

end Solver

end Conversation

section Machines

variable {σ α : Type}

theorem length_run_mapM
    {β γ : Type}
    (f : β → StateM σ γ)
    (entries : List β)
    (start : σ) :
    ((entries.mapM f).run start).1.length = entries.length := by
  induction entries generalizing start with
  | nil => rfl
  | cons b entries ih =>
    rw [List.mapM_cons, StateT.run_bind]
    exact congrArg (· + 1) (ih ((f b).run start).2)

/-- Through a guard a solver of any kind goes through the steps and one deletion. -/
theorem Guard.run_use_observed
    (solver : Handler (StateM σ) α)
    (start : σ)
    (steps : List (Step α))
    (ending : Ending) :
    ∃ results last final,
      results.length = steps.length ∧
      ((steps ++ [Step.submit .delete]).mapM solver).run start = (results ++ [last], final) ∧
      (((Guard.new (Diary.observed solver)).use Diary.warn steps ending).run .blank).run start
        =
      (((results, ending.outcome last),
        { received := steps ++ [.submit .delete], warnings := ending.warnings last }), final) := by
  rcases hsteps : (steps.mapM solver).run start with ⟨results, middle⟩
  rcases hlast : (solver (.submit .delete)).run middle with ⟨last, final⟩
  have hlength := length_run_mapM solver steps start
  rw [hsteps] at hlength
  refine ⟨results, last, final, hlength, ?_, ?_⟩
  · rw [List.mapM_append, StateT.run_bind, hsteps]
    show StateT.run
      ([Step.submit Call.delete].mapM solver >>= fun rest => pure (results ++ rest)) middle = _
    rw [List.mapM_cons, bind_assoc, StateT.run_bind, hlast]
    rfl
  · rw [Diary.run_use_observed, StateT.run_bind, hsteps]
    show StateT.run (solver (.submit .delete) >>= _) middle = _
    rw [StateT.run_bind, hlast]
    rfl

/--
Whatever the owner of a guard does, and whether it is released or dropped in the end,
the solver receives every step once and in order, answers it to the owner, and then
receives one deletion more; so it sees the explicit deletions and one besides.  The
answer to the last deletion is the outcome of a release, and is reported only if a
drop is refused.
-/
theorem Guard.deletes_once_at_end
    (steps : List (Step α))
    (ending : Ending) :
    (steps ++ [Step.submit .delete]).countP Step.isDelete = steps.countP Step.isDelete + 1 ∧
    (∀ {σ : Type} (solver : Handler (StateM σ) α) (start : σ),
      ∃ results last final,
        results.length = steps.length ∧
        ((steps ++ [Step.submit .delete]).mapM solver).run start = (results ++ [last], final) ∧
        (((Guard.new (Diary.observed solver)).use Diary.warn steps ending).run .blank).run start
          =
        (((results, ending.outcome last),
          { received := steps ++ [.submit .delete], warnings := ending.warnings last }), final)) ∧
    ∀ (solver : Solver α) (trace : Trace α),
      ∃ results made last,
        solver.Converses trace.calls steps results made ∧
        last = solver.accepts (trace.calls ++ made) .delete ∧
        (made ++ [Call.delete]).countP Call.isDelete = steps.countP Step.isDelete + 1 ∧
        (solver.use steps ending).run trace
          =
        ((results, ending.outcome last),
          { calls := trace.calls ++ made ++ [.delete]
            events := trace.events ++ (ending.warnings last).map .deleteFailed }) := by
  refine ⟨?_, ?_, ?_⟩
  · rw [List.countP_append]
    rfl
  · intro σ solver start
    exact run_use_observed solver start steps ending
  · intro solver trace
    obtain ⟨results, made, last, hconverses, hlast, hrun⟩ := solver.run_use steps ending trace
    refine ⟨results, made, last, hconverses, hlast, ?_, hrun⟩
    rw [List.countP_append, hconverses.countP_isDelete]
    rfl

-- A deletion by the owner does not stand in for the one at the end.
example
    (cause : SolverError) :
    let stubborn : Solver α :=
      { accepts := fun _ _ => .error cause, solve := fun _ => .error cause }
    (stubborn.use [.submit .delete] .drop).run .empty
      =
    (([.error cause], .ok ()), { calls := [.delete, .delete], events := [.deleteFailed cause] }) :=
  rfl

end Machines

end MathProgram

import MathProgram.Solver.Guard

/-!
# Guards without their memory

A guard remembers whether it was released.  Seen from outside this memory is gone:
the use of a guard is its steps, sent to the solver in order, then one deletion, and
at the end a report if a dropped guard was refused that deletion (`Guard.use_new`).
This holds in every lawful monad, and so for solvers of any kind.

**Diaries.**  To say what a solver receives, it is observed: every step is written
down before the solver sees it, and so is every report.  An observed solver answers
as before (`Diary.run_use_observed`).
-/

namespace MathProgram

namespace Ending

variable {β γ : Type}

/-- What the owner of a guard is told at its end, given the answer to the last deletion. -/
def outcome : Ending → Except SolverError β → Except SolverError Unit
  | .release, last => last.map fun _ => ()
  | .drop, _ => .ok ()

/-- What is reported at the end of a guard, given the answer to the last deletion. -/
def warnings : Ending → Except SolverError β → List SolverError
  | .drop, .error cause => [cause]
  | _, _ => []

@[simp] theorem outcome_map
    (ending : Ending)
    (f : β → γ)
    (last : Except SolverError β) :
    ending.outcome (last.map f) = ending.outcome last := by
  cases ending <;> cases last <;> rfl

@[simp] theorem warnings_map
    (ending : Ending)
    (f : β → γ)
    (last : Except SolverError β) :
    ending.warnings (last.map f) = ending.warnings last := by
  cases ending <;> cases last <;> rfl

end Ending

section Laws

variable {m : Type → Type} [Monad m] [LawfulMonad m] {α : Type}

namespace Guard

omit [LawfulMonad m] in
/-- A guard that was released has nothing left to do when it is let go. -/
theorem drop_of_released
    {guard : Guard m α}
    (h : guard.released = true)
    (report : SolverError → m Unit) :
    guard.drop report = pure () := by
  unfold drop
  rw [if_pos h]

/-- Releasing a guard deletes its solver once, and nothing is reported. -/
theorem release_eq_delete
    (guard : Guard m α)
    (report : SolverError → m Unit) :
    guard.release report = guard.delete := by
  unfold release
  simp only [drop_of_released, pure_bind, bind_pure]
  rfl

/-- A guard ends with one deletion, whose answer decides about the outcome and the reports. -/
theorem finish_new
    (solver : Handler m α)
    (report : SolverError → m Unit)
    (ending : Ending) :
    (new solver).finish report ending
      =
    (do
      let last ← solver (.submit .delete)
      (ending.warnings last).forM report
      return ending.outcome last) := by
  cases ending with
  | release =>
    rw [finish, release_eq_delete, delete]
    refine bind_congr fun last => ?_
    cases last <;> simp [Ending.warnings, Ending.outcome]
  | drop =>
    rw [finish, drop, if_neg (by simp [new]), delete]
    simp only [bind_assoc, pure_bind]
    refine bind_congr fun last => ?_
    cases last <;> simp [Ending.warnings, Ending.outcome, Except.map]

/-- The use of a guard is its steps, one deletion, and what that deletion leads to. -/
theorem use_new
    (solver : Handler m α)
    (report : SolverError → m Unit)
    (steps : List (Step α))
    (ending : Ending) :
    (new solver).use report steps ending
      =
    (do
      let results ← steps.mapM solver
      let last ← solver (.submit .delete)
      (ending.warnings last).forM report
      return (results, ending.outcome last)) := by
  unfold use
  simp only [finish_new, bind_assoc, pure_bind]
  rfl

end Guard

/-- The steps a solver received and the refusals that were reported, in order. -/
structure Diary (α : Type) where
  received : List (Step α)
  warnings : List SolverError

namespace Diary

/-- A diary before anything happened. -/
def blank : Diary α where
  received := []
  warnings := []

/-- Write down a step and pass it on to the solver. -/
def observed
    (solver : Handler m α) :
    Handler (StateT (Diary α) m) α :=
  fun step => do
    modify fun diary => { diary with received := diary.received ++ [step] }
    solver step

/-- Write down a refusal. -/
def warn
    (cause : SolverError) :
    StateT (Diary α) m Unit :=
  modify fun diary => { diary with warnings := diary.warnings ++ [cause] }

theorem run_observed
    (solver : Handler m α)
    (step : Step α)
    (diary : Diary α) :
    (observed solver step).run diary
      =
    (do
      let answer ← solver step
      return (answer, { diary with received := diary.received ++ [step] })) := by
  simp [observed]

/-- Observed steps are answered as before, and the solver receives just these. -/
theorem run_mapM_observed
    (solver : Handler m α)
    (steps : List (Step α))
    (diary : Diary α) :
    (steps.mapM (observed solver)).run diary
      =
    (do
      let results ← steps.mapM solver
      return (results, { diary with received := diary.received ++ steps })) := by
  induction steps generalizing diary with
  | nil => simp
  | cons step steps ih =>
    simp [run_observed, ih]

theorem run_forM_warn
    (causes : List SolverError)
    (diary : Diary α) :
    (forM causes warn : StateT (Diary α) m Unit).run diary
      = pure ((), { diary with warnings := diary.warnings ++ causes }) := by
  induction causes generalizing diary with
  | nil => simp
  | cons cause causes ih =>
    simp [warn, ih]

/--
A solver that is used through a guard receives the steps of its owner in order and
then one deletion, and nothing else; each step has the answer of the solver, and the
last deletion decides about the outcome and the reports.
-/
theorem run_use_observed
    (solver : Handler m α)
    (steps : List (Step α))
    (ending : Ending)
    (diary : Diary α) :
    ((Guard.new (observed solver)).use warn steps ending).run diary
      =
    (do
      let results ← steps.mapM solver
      let last ← solver (.submit .delete)
      return ((results, ending.outcome last),
        { received := diary.received ++ steps ++ [.submit .delete]
          warnings := diary.warnings ++ ending.warnings last })) := by
  simp [Guard.use_new, run_observed, run_mapM_observed, run_forM_warn]

end Diary

end Laws

end MathProgram

import MathProgram.Solver

/-!
# Guards of solvers

A guard owns a solver and sees to it that the solver is deleted.  Every step of the
owner goes through the guard to the solver, and no such step, not even a deletion,
relieves the guard of its own duty.

**Two endings.**  A guard that is released deletes its solver and hands the outcome
to the owner.  A guard that is dropped without having been released deletes the
solver as well, and only reports a refusal.  Releasing a guard uses it up, so a
released guard is dropped too; it remembers its release and does nothing more.

**Guarded sessions.**  `guarded` runs a session and deletes the solver afterwards.
After a session that succeeded a refused deletion is an error of its own; after one
that failed it is only reported by an event.
-/

namespace MathProgram

/-- How the use of a guard ends. -/
inductive Ending where
  | release
  | drop
  deriving DecidableEq, Repr

/-- A solver of any kind, which answers the steps of its owner in some monad. -/
abbrev Handler (m : Type → Type) (α : Type) :=
  Step α → m (Except SolverError (Option (Solution α)))

/-- A solver, and whether its guard was released. -/
structure Guard (m : Type → Type) (α : Type) where
  solver : Handler m α
  released : Bool

namespace Guard

section Guard

variable {m : Type → Type} [Monad m] {α : Type}

/-- A guard for a solver. -/
def new
    (solver : Handler m α) :
    Guard m α where
  solver
  released := false

/-- Use the solver of a guard. -/
def perform
    (guard : Guard m α) :
    Handler m α :=
  guard.solver

/-- Delete the solver of a guard. -/
def delete
    (guard : Guard m α) :
    m (Except SolverError Unit) := do
  let answer ← guard.perform (.submit .delete)
  return answer.map fun _ => ()

/-- Let go of a guard, which deletes its solver unless that was done by a release. -/
def drop
    (guard : Guard m α)
    (report : SolverError → m Unit) :
    m Unit :=
  if guard.released then
    return ()
  else do
    if let .error cause ← guard.delete then
      report cause

/-- Delete the solver of a guard, giving the outcome, and let go of the guard. -/
def release
    (guard : Guard m α)
    (report : SolverError → m Unit) :
    m (Except SolverError Unit) := do
  let released := { guard with released := true }
  let outcome ← released.delete
  released.drop report
  return outcome

/-- End the use of a guard in one of the two ways. -/
def finish
    (guard : Guard m α)
    (report : SolverError → m Unit) :
    Ending → m (Except SolverError Unit)
  | .release => guard.release report
  | .drop => do
    guard.drop report
    return .ok ()

/-- Perform steps in order, each with a result of its own, and end the use of the guard. -/
def use
    (guard : Guard m α)
    (report : SolverError → m Unit)
    (steps : List (Step α))
    (ending : Ending) :
    m (List (Except SolverError (Option (Solution α))) × Except SolverError Unit) := do
  let results ← steps.mapM guard.perform
  let outcome ← guard.finish report ending
  return (results, outcome)

end Guard

end Guard

namespace Solver

section Guarded

variable {α : Type}

/-- A guard for a solver that keeps a trace. -/
def guard
    (solver : Solver α) :
    Guard (StateM (Trace α)) α :=
  .new fun step => (solver.perform step).run

/-- Report a refused deletion by an event. -/
def reportRefusal
    (cause : SolverError) :
    StateM (Trace α) Unit :=
  emit (.deleteFailed cause)

/-- Delete the solver in one of the two ways. -/
def finish
    (solver : Solver α)
    (ending : Ending) :
    Session α SolverError Unit :=
  ExceptT.mk (solver.guard.finish reportRefusal ending)

/-- Use a solver through a guard. -/
def use
    (solver : Solver α)
    (steps : List (Step α))
    (ending : Ending) :
    StateM (Trace α)
      (List (Except SolverError (Option (Solution α))) × Except SolverError Unit) :=
  solver.guard.use reportRefusal steps ending

/-- Run a session and delete the solver afterwards, whether the session succeeds or fails. -/
def guarded
    {ε β : Type}
    (solver : Solver α)
    (ofRefusal : SolverError → ε)
    (session : Session α ε β) :
    Session α ε β :=
  ExceptT.mk do
    match ← session.run with
    | .ok result =>
      match ← (solver.finish .release).run with
      | .ok _ => return .ok result
      | .error cause => return .error (ofRefusal cause)
    | .error cause =>
      let _ ← (solver.finish .drop).run
      return .error cause

end Guarded

end Solver

end MathProgram

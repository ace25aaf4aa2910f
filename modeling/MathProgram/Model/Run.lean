import MathProgram.Solver.Guard

/-!
# Running a model

A model that has a variable is handed to a solver in a fixed order: the log
flag, the time limit if there is one, every variable, every row of every
constraint, the objective if there is one, and then the request to optimise.
The first refusal ends the run.

**Count.**  The rows are counted with 32 bits.  The count wraps around, and nothing
but the report of what was handed over depends on it.

The solver is deleted exactly once at the end of every run that has sent it a
call.  Only an optimal solution is a success.
-/

namespace MathProgram

/-- Why a run gave no solution. -/
inductive RunError where
  | noVariables
  | expression (cause : ExprError)
  | solver (cause : SolverError)
  | notOptimal (status : Status)
  deriving DecidableEq, Repr

/-- The text of a failed run. -/
def RunError.message : RunError → String
  | noVariables => "no variables in model"
  | expression cause => cause.message
  | solver cause => cause.message
  | notOptimal status => "solver finished with status " ++ status.text

namespace Model

section Run

variable {α : Type}

/-- Send a call on behalf of a run. -/
def tell
    (solver : Solver α)
    (call : Call α) :
    Session α RunError Unit :=
  ExceptT.adapt .solver (solver.submit call)

/-- Send the rows of constraints in order, and go on counting those that were sent. -/
def sendRows
    (solver : Solver α)
    (sent : Int32) :
    List (Constraint α) → Session α RunError Int32
  | [] => return sent
  | c :: rest => do
    let rows ← ExceptT.mk (return c.rows.mapError .expression)
    let sent ← rows.foldlM
      (fun sent row => do
        tell solver (.addConstraint row)
        return sent + 1)
      sent
    sendRows solver sent rest

/-- Hand over settings, variables, rows and objective. -/
def load
    (m : Model α)
    (solver : Solver α) :
    Session α RunError Unit := do
  tell solver (.showLog m.showLog)
  if let some seconds := m.timeLimitSeconds? then
    tell solver (.setTimeLimit seconds)
  ExceptT.adapt .solver (solver.addVariables m.vars)
  let rows ← sendRows solver 0 m.constraints
  ExceptT.lift <|
    emit (.optimizing m.vars.length m.constraints.length rows m.objectiveVars)
  if let some objective := m.objective then
    tell solver (.setObjective objective)

/-- Hand a model over and ask for a solution. -/
def attempt
    (m : Model α)
    (solver : Solver α) :
    Session α RunError (Solution α) := do
  m.load solver
  ExceptT.adapt .solver solver.optimize

/-- Optimise a model with a solver, which is deleted afterwards. -/
def optimize
    (m : Model α)
    (solver : Solver α) :
    Session α RunError (Solution α) := do
  if m.vars.isEmpty then
    throw .noVariables
  let solution ← solver.guarded .solver (m.attempt solver)
  ExceptT.lift (emit (.finished solution.status solution.objective))
  if solution.status = .optimal then
    return solution
  else
    throw (.notOptimal solution.status)

end Run

end Model

end MathProgram

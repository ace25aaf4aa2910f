import MathProgram.Model

/-!
# Solvers

A solver receives calls one at a time and answers each of them.  It is given by
its answers: what it says to a call may depend on all calls it received before.

**Sessions.**  A session is a computation that sends calls and emits events.  It
keeps the trace of both, in order.  A call is part of the trace whether the
solver accepts it or refuses it.

**Steps.**  The owner of a solver uses it step by step, and every step has an answer
of its own.
-/

namespace MathProgram

/-- What a solver can be asked to do. -/
inductive Call (α : Type) where
  | showLog (flag : Bool)
  | setTimeLimit (seconds : Float)
  | addVariable (v : Variable)
  | addConstraint (c : ScalarConstraint α)
  | setObjective (o : Objective α)
  | optimize
  | delete

/-- The answers of a solver, given the calls it received before. -/
structure Solver (α : Type) where
  accepts : List (Call α) → Call α → Except SolverError Unit
  solve : List (Call α) → Except SolverError (Solution α)

/-- The calls a solver received and the events that were emitted, in order. -/
structure Trace (α : Type) where
  calls : List (Call α)
  events : List (Event α)

/-- The trace before anything happened. -/
def Trace.empty
    {α : Type} :
    Trace α where
  calls := []
  events := []

/-- A computation that extends a trace and may fail. -/
abbrev Session (α ε β : Type) :=
  ExceptT ε (StateM (Trace α)) β

/-- One use of a solver by its owner. -/
inductive Step (α : Type) where
  | submit (call : Call α)
  | addVariables (vars : List Variable)

section Solver

variable {α : Type}

/-- Emit an event. -/
def emit
    (e : Event α) :
    StateM (Trace α) Unit :=
  modify fun trace => { trace with events := trace.events ++ [e] }

namespace Solver

/-- What a solver answers to a call: a solution if it was asked to optimise. -/
def answer
    (solver : Solver α)
    (history : List (Call α)) :
    Call α → Except SolverError (Option (Solution α))
  | .optimize => (solver.solve history).map some
  | call => (solver.accepts history call).map fun _ => none

/-- Record a call, giving the calls before it. -/
def record
    (call : Call α) :
    StateM (Trace α) (List (Call α)) :=
  modifyGet fun trace => (trace.calls, { trace with calls := trace.calls ++ [call] })

/-- Send any call. -/
def ask
    (solver : Solver α)
    (call : Call α) :
    Session α SolverError (Option (Solution α)) :=
  ExceptT.mk do
    let history ← record call
    return solver.answer history call

/-- Send a call whose answer says only whether it was accepted. -/
def submit
    (solver : Solver α)
    (call : Call α) :
    Session α SolverError Unit :=
  ExceptT.mk do
    let history ← record call
    return solver.accepts history call

/-- Ask for a solution. -/
def optimize
    (solver : Solver α) :
    Session α SolverError (Solution α) :=
  ExceptT.mk do
    let history ← record .optimize
    return solver.solve history

/-- Send variables one at a time, up to the first one that is refused. -/
def addVariables
    (solver : Solver α)
    (vars : List Variable) :
    Session α SolverError Unit :=
  vars.forM fun v => solver.submit (.addVariable v)

/-- Perform one step of an owner. -/
def perform
    (solver : Solver α) :
    Step α → Session α SolverError (Option (Solution α))
  | .submit call => solver.ask call
  | .addVariables vars => do
    solver.addVariables vars
    return none

end Solver

end Solver

end MathProgram

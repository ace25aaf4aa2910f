import MathProgram.Solver

/-!
# Scripted solvers

A scripted solver has its solution fixed in advance and refuses the calls that
its script names: the call of a method that comes after a given number of
earlier calls of the same method.  It may also refuse every constraint without
a linear row, for the reason that the row does not exist.
-/

namespace MathProgram

/-- The kinds of calls. -/
inductive Method where
  | showLog
  | setTimeLimit
  | addVariable
  | addConstraint
  | setObjective
  | optimize
  | delete
  deriving DecidableEq, Repr

namespace Method

/-- Every method. -/
def all : List Method :=
  [showLog, setTimeLimit, addVariable, addConstraint, setObjective, optimize, delete]

/-- The name of a method. -/
def name : Method → String
  | showLog => "show_log"
  | setTimeLimit => "set_time_limit"
  | addVariable => "add_variable"
  | addConstraint => "add_constraint"
  | setObjective => "set_objective"
  | optimize => "optimize"
  | delete => "delete_solver"

/-- The method with a name. -/
def ofName?
    (name : String) :
    Option Method :=
  all.find? fun m => m.name == name

end Method

/-- The method of a call. -/
def Call.method
    {α : Type} :
    Call α → Method
  | showLog _ => .showLog
  | setTimeLimit _ => .setTimeLimit
  | addVariable _ => .addVariable
  | addConstraint _ => .addConstraint
  | setObjective _ => .setObjective
  | optimize => .optimize
  | delete => .delete

/-- A call that a script refuses: its method, its number among those calls, and the text. -/
structure Refusal where
  method : Method
  number : Nat
  text : String
  deriving DecidableEq, Repr

/-- What a scripted solver does. -/
structure Script (α : Type) where
  solution : Solution α
  refusals : List Refusal
  linearOnly : Bool

namespace Script

section Script

variable {α : Type}

/-- The refusal of a script for a call, if it has one; the first one counts. -/
def refusal?
    (script : Script α)
    (history : List (Call α))
    (method : Method) :
    Option Refusal :=
  let earlier := (history.filter fun call => call.method == method).length
  script.refusals.find? fun r => r.method == method && r.number == earlier

/-- Check a call against the refusals of a script. -/
def check
    (script : Script α)
    (history : List (Call α))
    (method : Method) :
    Except SolverError Unit :=
  match script.refusal? history method with
  | some r => .error (.reported r.text)
  | none => .ok ()

/-- Check that a constraint has a linear row, if the script asks for that. -/
def checkRow
    [Zero α]
    [One α]
    [Add α]
    [Mul α]
    [Neg α]
    (script : Script α)
    (c : ScalarConstraint α) :
    Except SolverError Unit :=
  if script.linearOnly then
    match c.linearRow with
    | .ok _ => .ok ()
    | .error cause => .error (.rejected cause)
  else
    .ok ()

/-- The solver that follows a script. -/
def solver
    [Zero α]
    [One α]
    [Add α]
    [Mul α]
    [Neg α]
    (script : Script α) :
    Solver α where
  accepts history call := do
    script.check history call.method
    match call with
    | .addConstraint c => script.checkRow c
    | _ => return ()
  solve history := do
    script.check history .optimize
    return script.solution

end Script

end Script

end MathProgram

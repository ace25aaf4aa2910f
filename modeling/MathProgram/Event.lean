import MathProgram.ExprError
import MathProgram.Model.Solution

/-!
# Events

The library reports what it does by events.  An event is known by its cause;
its level, its target, its message and its fields follow from the cause.
-/

namespace MathProgram

/-- How important an event is, the most important level first. -/
inductive Level where
  | error
  | warn
  | info
  | debug
  | trace
  deriving DecidableEq, Repr

namespace Level

/-- The rank of a level; less important levels have a higher rank. -/
def rank : Level → Nat
  | error => 1
  | warn => 2
  | info => 3
  | debug => 4
  | trace => 5

/-- The name of a level. -/
def name : Level → String
  | error => "ERROR"
  | warn => "WARN"
  | info => "INFO"
  | debug => "DEBUG"
  | trace => "TRACE"

end Level

/-- Why a solver refused a call: with a text of its own, or because of an expression. -/
inductive SolverError where
  | reported (text : String)
  | rejected (cause : ExprError)
  deriving DecidableEq, Repr

/-- The text of a refusal. -/
def SolverError.message : SolverError → String
  | reported text => text
  | rejected cause => cause.message

/-- What happened. -/
inductive Event (α : Type) where
  | constraintDropped (cause : ExprError)
  | lengthMismatch (vars coeffs : Nat)
  | optimizing (vars constraints : Nat) (rows : Int32) (objectiveVars : Nat)
  | finished (status : Status) (objective : α)
  | deleteFailed (cause : SolverError)

/-- A value attached to an event. -/
inductive FieldValue (α : Type) where
  | text (s : String)
  | count (n : Nat)
  | integer (n : Int)
  | number (x : α)

namespace Event

section Event

variable {α : Type}

/-- The level of an event. -/
def level : Event α → Level
  | constraintDropped _ => .error
  | lengthMismatch _ _ => .error
  | optimizing _ _ _ _ => .info
  | finished _ _ => .debug
  | deleteFailed _ => .warn

/-- The part of the library that an event comes from. -/
def target : Event α → String
  | constraintDropped _ => "optim::model"
  | lengthMismatch _ _ => "optim::model::helpers"
  | optimizing _ _ _ _ => "optim::model"
  | finished _ _ => "optim::model"
  | deleteFailed _ => "optim::model::solver"

/-- The text of an event. -/
def message : Event α → String
  | constraintDropped cause => "dropping constraint: " ++ cause.message
  | lengthMismatch _ _ => "number of vars and coeffs mismatch"
  | optimizing _ _ _ _ => "optimising model"
  | finished _ _ => "solver finished"
  | deleteFailed cause => "failed to delete solver: " ++ cause.message

/-- The values attached to an event, by name. -/
def fields : Event α → List (String × FieldValue α)
  | constraintDropped cause => [("code", .text cause.code)]
  | lengthMismatch vars coeffs => [("num_vars", .count vars), ("num_coeffs", .count coeffs)]
  | optimizing vars constraints rows objectiveVars =>
    [("variables", .count vars), ("constraints", .count constraints), ("rows", .integer rows.toInt),
      ("objective_vars", .count objectiveVars)]
  | finished status objective => [("status", .text status.text), ("objective", .number objective)]
  | deleteFailed _ => []

/-- The names of everything an event carries: its message, then the attached values. -/
def fieldNames
    (e : Event α) :
    List String :=
  "message" :: e.fields.map Prod.fst

end Event

end Event

end MathProgram

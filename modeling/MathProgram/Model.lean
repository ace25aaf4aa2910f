import MathProgram.Constraint
import MathProgram.Event

/-!
# Models

A model stores variables, constraints, an objective and two settings for the
solver.

**Variables.**  A new variable gets the number of variables so far as its id, so
that the variable at position `i` has id `i`.

**Constraints.**  Constraints are numbered in the order in which they are added.
A comparison that failed is dropped: it leaves the model as it was and is
reported by an event.
-/

namespace MathProgram

/-- Whether an objective is to be made small or large. -/
inductive Direction where
  | minimize
  | maximize
  deriving DecidableEq, Repr

/-- An expression to be minimised or maximised. -/
structure Objective (α : Type) where
  direction : Direction
  expression : ScalarExpr α

namespace Objective

/-- The degree of the expression. -/
def degree
    {α : Type}
    (o : Objective α) :
    Nat :=
  o.expression.degree

/-- The number of distinct variables of the expression. -/
def numVars
    {α : Type}
    (o : Objective α) :
    Nat :=
  o.expression.numVars

end Objective

/-- A span of time in whole seconds and nanoseconds. -/
structure Duration where
  seconds : Nat
  nanos : Nat
  deriving DecidableEq, Repr

namespace Duration

/-- The empty span. -/
def zero : Duration where
  seconds := 0
  nanos := 0

/-- Nanoseconds in one second. -/
def nanosPerSecond : Float :=
  1000000000

/-- The span in seconds, both parts being rounded to floats before they are added. -/
def toSeconds
    (d : Duration) :
    Float :=
  d.seconds.toUInt64.toFloat + d.nanos.toUInt64.toFloat / nanosPerSecond

end Duration

/-- Variables, constraints and an objective, with settings for the solver. -/
structure Model (α : Type) where
  vars : List Variable
  constraints : List (Constraint α)
  objective : Option (Objective α)
  showLog : Bool
  timeLimit : Duration

/-- The bounds and the kind that new variables get. -/
structure VariableDomain where
  lower : Float
  upper : Float
  kind : VarKind

namespace VariableDomain

/-- All numbers. -/
def free : VariableDomain where
  lower := -1 / 0
  upper := 1 / 0
  kind := .continuous

/-- Zero and one. -/
def binary : VariableDomain where
  lower := 0
  upper := 1
  kind := .binary

/-- The variable with a given id in a domain. -/
def handle
    (domain : VariableDomain)
    (id : Nat) :
    Variable where
  id := id
  lower := domain.lower
  upper := domain.upper
  kind := domain.kind

end VariableDomain

namespace Model

section Model

variable {α : Type}

/-- The model without variables, constraints and objective. -/
def empty : Model α where
  vars := []
  constraints := []
  objective := none
  showLog := false
  timeLimit := .zero

/-- Add one variable. -/
def addVariable
    (m : Model α)
    (domain : VariableDomain) :
    Variable × Model α :=
  let v := domain.handle m.vars.length
  (v, { m with vars := m.vars ++ [v] })

/-- Add several variables, one after another. -/
def addVector
    (m : Model α)
    (domain : VariableDomain) :
    Nat → Basis × Model α
  | 0 => ([], m)
  | n + 1 =>
    let first := m.addVariable domain
    let others := addVector first.2 domain n
    (first.1 :: others.1, others.2)

/-- Add a grid of variables, row by row. -/
def addGrid
    (m : Model α)
    (domain : VariableDomain)
    (rows cols : Nat) :
    List Basis × Model α :=
  match rows with
  | 0 => ([], m)
  | rows + 1 =>
    let first := m.addVector domain cols
    let others := addGrid first.2 domain rows cols
    (first.1 :: others.1, others.2)

/-- Add a constraint, giving its position. -/
def addConstraint
    (m : Model α)
    (c : Constraint α) :
    Nat × Model α :=
  (m.constraints.length, { m with constraints := m.constraints ++ [c] })

/-- Add the outcome of a comparison, giving its position unless it failed. -/
def addComparison
    (m : Model α)
    (outcome : Except ExprError (Constraint α)) :
    Option Nat × Model α :=
  match outcome with
  | .ok c =>
    let added := m.addConstraint c
    (some added.1, added.2)
  | .error _ => (none, m)

/-- The events of adding the outcome of a comparison. -/
def comparisonEvents
    (outcome : Except ExprError (Constraint α)) :
    List (Event α) :=
  match outcome with
  | .ok _ => []
  | .error cause => [.constraintDropped cause]

/-- Replace the objective. -/
def setObjective
    (m : Model α)
    (o : Objective α) :
    Model α :=
  { m with objective := some o }

/-- Choose whether the solver shows its log. -/
def setShowLog
    (m : Model α)
    (flag : Bool) :
    Model α :=
  { m with showLog := flag }

/-- Limit the time of the solver; an empty span means no limit. -/
def setTimeLimit
    (m : Model α)
    (limit : Duration) :
    Model α :=
  { m with timeLimit := limit }

/-- The time limit in seconds, if there is one. -/
def timeLimitSeconds?
    (m : Model α) :
    Option Float :=
  if m.timeLimit = .zero then none else some m.timeLimit.toSeconds

/-- The number of distinct variables of the objective, zero without one. -/
def objectiveVars
    (m : Model α) :
    Nat :=
  (m.objective.map Objective.numVars).getD 0

end Model

end Model

end MathProgram

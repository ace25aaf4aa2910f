import MathProgram.Proofs.Checked.Constraint

/-!
# Values of a program

A program of calls works on values that earlier calls handed out: expressions
of any kind, and constraints.  Values and raw values are told apart in the same
way, so that forgetting what a value promises does not change its kind.

An answer to a call hands out values, or gives numbers that are only read.
-/

namespace MathProgram

section Values

variable {α β V W : Type}

/-- What a call can hand out for later use. -/
inductive Value (α : Type) where
  | expression (e : Expression α)
  | constraint (c : Constraint α)

/-- What a checked call can hand out for later use. -/
inductive RawValue (α : Type) where
  | expression (e : RawExpression α)
  | constraint (c : RawConstraint α)

/-- The parts of an expression or of both sides of a constraint fit. -/
def RawValue.WellShaped
    (v : RawValue α) :
    Prop :=
  match v with
  | expression e => e.WellShaped
  | constraint c => c.WellShaped

namespace Value

/-- The parts of a value. -/
def raw : Value α → RawValue α
  | expression e => .expression e.raw
  | constraint c => .constraint c.raw

/-- A value that is a scalar expression. -/
def ofScalar
    (e : ScalarExpr α) :
    Value α :=
  expression (.scalar e)

/-- A value that is a vector. -/
def ofVector
    (e : VectorExpr α) :
    Value α :=
  expression (.vector e)

def expression? : Value α → Option (Expression α)
  | expression e => some e
  | _ => none

def scalar? : Value α → Option (ScalarExpr α)
  | expression (.scalar e) => some e
  | _ => none

def affine? : Value α → Option (Affine α)
  | expression (.scalar (.affine e)) => some e
  | _ => none

def quadratic? : Value α → Option (Quadratic α)
  | expression (.scalar (.quadratic e)) => some e
  | _ => none

def vector? : Value α → Option (VectorExpr α)
  | expression (.vector e) => some e
  | _ => none

def affineVector? : Value α → Option (AffineVector α)
  | expression (.vector (.affine e)) => some e
  | _ => none

def constraint? : Value α → Option (Constraint α)
  | constraint c => some c
  | _ => none

def scalarConstraint? : Value α → Option (ScalarConstraint α)
  | constraint (.scalar c) => some c
  | _ => none

theorem wellShaped_raw
    (v : Value α) :
    v.raw.WellShaped := by
  cases v with
  | expression e => exact e.wellShaped_raw
  | constraint c => exact c.wellShaped_raw

end Value

namespace RawValue

/-- A value that is a scalar expression. -/
def ofScalar
    (e : RawScalar α) :
    RawValue α :=
  expression (.scalar e)

/-- A value that is a vector. -/
def ofVector
    (e : RawVector α) :
    RawValue α :=
  expression (.vector e)

def expression? : RawValue α → Option (RawExpression α)
  | expression e => some e
  | _ => none

def scalar? : RawValue α → Option (RawScalar α)
  | expression (.scalar e) => some e
  | _ => none

def affine? : RawValue α → Option (RawAffine α)
  | expression (.scalar (.affine e)) => some e
  | _ => none

def quadratic? : RawValue α → Option (RawQuadratic α)
  | expression (.scalar (.quadratic e)) => some e
  | _ => none

def vector? : RawValue α → Option (RawVector α)
  | expression (.vector e) => some e
  | _ => none

def affineVector? : RawValue α → Option (RawAffineVector α)
  | expression (.vector (.affine e)) => some e
  | _ => none

def constraint? : RawValue α → Option (RawConstraint α)
  | constraint c => some c
  | _ => none

def scalarConstraint? : RawValue α → Option (RawScalarConstraint α)
  | constraint (.scalar c) => some c
  | _ => none

end RawValue

section Kinds

variable (v : Value α)

theorem expression?_raw :
    v.raw.expression? = v.expression?.map Expression.raw := by
  cases v <;> rfl

theorem scalar?_raw :
    v.raw.scalar? = v.scalar?.map ScalarExpr.raw := by
  rcases v with (e | e) | c <;> rfl

theorem affine?_raw :
    v.raw.affine? = v.affine?.map Affine.raw := by
  rcases v with ((k | w | e | e) | e) | c <;> rfl

theorem quadratic?_raw :
    v.raw.quadratic? = v.quadratic?.map Quadratic.raw := by
  rcases v with ((k | w | e | e) | e) | c <;> rfl

theorem vector?_raw :
    v.raw.vector? = v.vector?.map VectorExpr.raw := by
  rcases v with (e | e) | c <;> rfl

theorem affineVector?_raw :
    v.raw.affineVector? = v.affineVector?.map AffineVector.raw := by
  rcases v with (e | (ks | ws | e)) | c <;> rfl

theorem constraint?_raw :
    v.raw.constraint? = v.constraint?.map Constraint.raw := by
  cases v <;> rfl

theorem scalarConstraint?_raw :
    v.raw.scalarConstraint? = v.scalarConstraint?.map ScalarConstraint.raw := by
  rcases v with e | (c | c) <;> rfl

end Kinds

/-- What a call gives back: values for later use, or numbers that are only read. -/
inductive Answer (α V : Type) where
  | values (vs : List V)
  | numbers (xs : List α)
  | row (r : LinearRow α)
  | nothing

namespace Answer

/-- The answer that is one value. -/
def one
    (v : V) :
    Answer α V :=
  values [v]

/-- The values that an answer hands out. -/
def handedOut : Answer α V → List V
  | values vs => vs
  | _ => []

/-- Change the values that an answer hands out. -/
def map
    (f : V → W) :
    Answer α V → Answer α W
  | values vs => values (vs.map f)
  | numbers xs => numbers xs
  | row r => row r
  | nothing => nothing

theorem handedOut_map
    (f : V → W)
    (a : Answer α V) :
    (a.map f).handedOut = a.handedOut.map f := by
  cases a <;> rfl

end Answer

/-- Go on with a value that has the kind that is asked for; others have no answer. -/
def withKind
    (operand : Option β)
    (next : β → Checked (Answer α V)) :
    Checked (Answer α V) :=
  match operand with
  | some b => next b
  | none => .ok .nothing

/-- The values at several places, if all of them have the kind that is asked for. -/
def operands?
    (values : List V)
    (kind? : V → Option β) :
    List Nat → Option (List β)
  | [] => some []
  | a :: places =>
    match values[a]?.bind kind?, operands? values kind? places with
    | some operand, some rest => some (operand :: rest)
    | _, _ => none

end Values

end MathProgram

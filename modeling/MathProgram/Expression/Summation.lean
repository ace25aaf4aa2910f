import MathProgram.Expression.Scalar

/-!
# Sums of many expressions

**Sums.**  `sum` adds expressions from the left to the affine expression without
variables, so that its result has one slot per id.  `sumFromConstant` starts
from the constant zero instead, and stays a constant as long as all summands
are constants.

**Grids.**  A grid is a list of rows of variables, possibly of different
lengths.  A row or a column is summed when it exists in full.

**Weighted sums.**  `dot` pairs variables with coefficients, and is defined for
lists of one length only.
-/

namespace MathProgram

namespace ScalarExpr

section Summation

variable {α : Type}
variable [Zero α] [One α] [Add α]

/-- The affine expression without variables that is zero. -/
def empty : ScalarExpr α :=
  affine (.ofConstant 0)

/-- The sum of expressions, starting from the empty affine expression. -/
def sum
    (items : List (ScalarExpr α)) :
    ScalarExpr α :=
  items.foldl add empty

/-- The sum of expressions, starting from the constant zero. -/
def sumFromConstant
    (items : List (ScalarExpr α)) :
    ScalarExpr α :=
  items.foldl add (constant 0)

/-- The sum of variables. -/
def sumVars
    (vars : Basis) :
    ScalarExpr α :=
  sum (vars.map var)

/-- The sum of one row of a grid. -/
def sumRow
    (grid : List Basis)
    (row : Nat) :
    Except ExprError (ScalarExpr α) :=
  match grid[row]? with
  | some cells => .ok (sumVars cells)
  | none => .error (.dimensionMismatch .gridRowIndex grid.length row)

/-- The cell of a row in a column, or the length of the row when it is too short. -/
def cellAt
    (column : Nat)
    (cells : Basis) :
    Except ExprError Variable :=
  match cells[column]? with
  | some v => .ok v
  | none => .error (.dimensionMismatch .gridColumnIndex cells.length column)

/-- The sum of one column of a grid, provided that every row reaches it. -/
def sumColumn
    (grid : List Basis)
    (column : Nat) :
    Except ExprError (ScalarExpr α) :=
  (grid.mapM (cellAt column)).map sumVars

/-- The numbers of variables and coefficients that should have been equal. -/
structure LengthMismatch where
  vars : Nat
  coeffs : Nat
  deriving DecidableEq, Repr

/-- The text of a length mismatch. -/
def LengthMismatch.message
    (e : LengthMismatch) :
    String :=
  "dot: " ++ toString e.vars ++ " variables but " ++ toString e.coeffs ++ " coefficients"

/-- The sum of variables weighted by coefficients, with one slot per id. -/
def dot
    (vars : Basis)
    (coeffs : List α) :
    Except LengthMismatch (ScalarExpr α) :=
  if h : coeffs.length = vars.length then
    .ok (empty.add (affine { vars, coeffs, constant := 0, length_coeffs := h }))
  else
    .error { vars := vars.length, coeffs := coeffs.length }

end Summation

end ScalarExpr

end MathProgram

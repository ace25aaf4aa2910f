/-!
# Failures of the expression algebra

An expression operation fails for one of three causes: two parts that must
agree in size do not, a variable has no slot in the basis an expression is
moved to, or an operation is not defined for a pair of kinds.

Every cause has a stable code, and the message starts with that code.
-/

namespace MathProgram

/-- The kinds of expressions, scalar ones first. -/
inductive ExprKind where
  | constant
  | var
  | affine
  | quadratic
  | constantVector
  | varVector
  | affineVector
  deriving DecidableEq, Repr

/-- The name by which messages call a kind. -/
def ExprKind.name : ExprKind → String
  | constant => "Constant"
  | var => "Variable"
  | affine => "ScalarLinearExpr"
  | quadratic => "ScalarQuadraticExpr"
  | constantVector => "VectorConstant"
  | varVector => "VarVector"
  | affineVector => "VectorLinearExpr"

/-- The operations that are not defined for every pair of kinds. -/
inductive ExprOperation where
  | plus
  | comparison
  | linearRow
  deriving DecidableEq, Repr

/-- The name by which messages call an operation. -/
def ExprOperation.name : ExprOperation → String
  | plus => "Plus"
  | comparison => "Comparison"
  | linearRow => "LinearRow"

/-- The two sizes that a check compares. -/
inductive SizeCheck where
  | coefficientsOfVariables
  | quadRowsOfVariables
  | quadColumnsOfVariables
  | linearPartOfVariables
  | columnsOfVariables
  | rowsOfOffset
  | rowIndex
  | addedLengths
  | comparedLengths
  | gridRowIndex
  | gridColumnIndex
  deriving DecidableEq, Repr

/-- The description of a check in messages. -/
def SizeCheck.description : SizeCheck → String
  | coefficientsOfVariables => "linear coefficients vs. variables"
  | quadRowsOfVariables => "Q rows vs. variables"
  | quadColumnsOfVariables => "Q columns vs. variables"
  | linearPartOfVariables => "L length vs. variables"
  | columnsOfVariables => "L columns vs. variables"
  | rowsOfOffset => "L rows vs. C length"
  | rowIndex => "row index vs. output length"
  | addedLengths => "vector expression lengths"
  | comparedLengths => "vector comparison lengths"
  | gridRowIndex => "row index vs. matrix rows"
  | gridColumnIndex => "column index vs. row length"

/-- Why an expression operation failed. -/
inductive ExprError where
  | dimensionMismatch (check : SizeCheck) (expected found : Nat)
  | missingVariable (id : Nat)
  | unsupportedOperands (operation : ExprOperation) (lhs rhs : ExprKind)
  deriving DecidableEq, Repr

namespace ExprError

/-- The stable code of a cause. -/
def code : ExprError → String
  | dimensionMismatch _ _ _ => "EXPR_DIMENSION_MISMATCH"
  | missingVariable _ => "EXPR_REINDEX"
  | unsupportedOperands _ _ _ => "EXPR_UNSUPPORTED_OPERANDS"

/-- The text of a cause without its code. -/
def explanation : ExprError → String
  | dimensionMismatch check expected found =>
    check.description ++ ": expected dimension " ++ toString expected
      ++ ", found " ++ toString found
  | missingVariable id =>
    "variable " ++ toString id ++ " is in the old basis but not in the new one"
  | unsupportedOperands operation lhs rhs =>
    operation.name ++ " is not defined for " ++ lhs.name ++ " and " ++ rhs.name

/-- The full message: the code in brackets, then the explanation. -/
def message
    (e : ExprError) :
    String :=
  "[" ++ e.code ++ "] " ++ e.explanation

end ExprError

end MathProgram

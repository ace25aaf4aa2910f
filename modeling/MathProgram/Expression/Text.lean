import MathProgram.Decimal.Layout
import MathProgram.Expression.Affine

/-!
# The text of expressions

Constants, variables and affine expressions can be written out.  An affine
expression lists the term of every slot, repeats included, and ends with its
constant.
-/

namespace MathProgram

/-- A variable is written as the letter x followed by its id. -/
def Variable.text
    (v : Variable) :
    String :=
  "x" ++ toString v.id

/-- All parts of a variable, with numbers that always show a point or an exponent. -/
def Variable.details
    (v : Variable) :
    String :=
  "Variable \x7b id: " ++ toString v.id ++ ", lower: " ++ Layout.pointed.text v.lower ++ ", upper: "
    ++ Layout.pointed.text v.upper ++ ", var_type: " ++ v.kind.name ++ " \x7d"

/-- A constant is written positionally. -/
def constantText
    (k : Float) :
    String :=
  Layout.plain.text k

/-- The term of every slot, each followed by a plus sign, and then the constant. -/
def Affine.text
    (e : Affine Float) :
    String :=
  let terms := e.terms.map fun p => constantText p.2 ++ " x" ++ toString p.1 ++ " + "
  String.join terms ++ constantText e.constant

end MathProgram

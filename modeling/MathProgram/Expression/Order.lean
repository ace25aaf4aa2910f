/-!
# The order of constants

Constants are compared as floats: the two zeros are equal, and a value that is
not a number is unordered, even against itself.
-/

namespace MathProgram

/-- How two constants are ordered, if they are. -/
def compareConstants
    (a b : Float) :
    Option Ordering :=
  if a < b then
    some .lt
  else if b < a then
    some .gt
  else if a == b then
    some .eq
  else
    none

end MathProgram

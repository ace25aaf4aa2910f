import MathProgram.Text.Alphabetic
import MathProgram.Text.Numeric

/-!
# Letters and numbers

A character is alphanumeric if it is a letter or a number of any script.
-/

namespace MathProgram

namespace CharClass

/-- The letters and numbers of all scripts. -/
def alphanumeric : CharClass :=
  alphabetic.union numeric

end CharClass

end MathProgram

import MathProgram.Text.CharClass

/-!
# Blanks

The blanks are the characters with the property of white space: spaces of every
width, tabulators, and the ends of lines, paragraphs and pages.
-/

namespace MathProgram

namespace CharClass

/-- The blanks. -/
def blank : CharClass where
  ranges :=
    [(0x9, 0xD), (0x20, 0x20), (0x85, 0x85), (0xA0, 0xA0), (0x1680, 0x1680), (0x2000, 0x200A),
      (0x2028, 0x2029), (0x202F, 0x202F), (0x205F, 0x205F), (0x3000, 0x3000)]

end CharClass

end MathProgram

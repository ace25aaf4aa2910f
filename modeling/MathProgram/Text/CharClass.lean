/-!
# Classes of characters

A class of characters is given by ranges of code points, both ends included.
-/

namespace MathProgram

/-- The characters whose code points lie in some range. -/
structure CharClass where
  ranges : List (Nat × Nat)

namespace CharClass

/-- Whether a character is in the class. -/
def contains
    (cls : CharClass)
    (c : Char) :
    Bool :=
  cls.ranges.any fun range => range.1 ≤ c.toNat && c.toNat ≤ range.2

/-- The characters of two classes. -/
def union
    (cls other : CharClass) :
    CharClass where
  ranges := cls.ranges ++ other.ranges

end CharClass

end MathProgram

import MathProgram.Text.Blank

/-!
# Elements of a pattern

An element stands for one character or for a place between two characters.  It is
a character of the text, a point, a mark for an edge, or a backslash with what
follows it.

**Braces.**  Patterns are written between braces and so hold no closing brace.
What would need one, such as a property with a long name, is refused.
-/

namespace MathProgram

/-- A part of a pattern for one character or for a place between characters. -/
inductive PatternElement where
  /-- One character, perhaps written as the value of a byte. -/
  | character (c : Char) (isByte : Bool)
  /-- Any character. -/
  | anything
  /-- The start or the end of a line or of the text. -/
  | edge
  /-- The start or the end of a word, or a place that is neither. -/
  | wordEdge
  /-- A digit, a space or a character of a word, or none of that kind. -/
  | shorthand (negated : Bool)
  /-- A character with a property. -/
  | property
  deriving DecidableEq, Repr

namespace PatternElement

/-- Drop blanks, and comments up to the end of their line. -/
def dropBlanks
    (inComment : Bool) :
    List Char → List Char
  | [] => []
  | c :: cs =>
    if inComment then
      dropBlanks (c != '\n') cs
    else if c == '#' then
      dropBlanks true cs
    else if CharClass.blank.contains c then
      dropBlanks false cs
    else
      c :: cs

/-- In verbose mode, drop blanks and comments. -/
def skip
    (verbose : Bool)
    (cs : List Char) :
    List Char :=
  if verbose then dropBlanks false cs else cs

/-- The value of a digit in base sixteen. -/
def hexDigit?
    (c : Char) :
    Option Nat :=
  if '0' ≤ c && c ≤ '9' then
    some (c.toNat - '0'.toNat)
  else if 'a' ≤ c && c ≤ 'f' then
    some (c.toNat - 'a'.toNat + 10)
  else if 'A' ≤ c && c ≤ 'F' then
    some (c.toNat - 'A'.toNat + 10)
  else
    none

/-- Read a number of digits in base sixteen behind a value. -/
def hexNumber?
    (verbose : Bool) :
    Nat → Nat → List Char → Option (Nat × List Char)
  | 0, value, cs => some (value, cs)
  | count + 1, value, cs =>
    match skip verbose cs with
    | [] => none
    | c :: rest =>
      match hexDigit? c with
      | none => none
      | some digit => hexNumber? verbose count (16 * value + digit) rest

/-- How many digits follow a letter that announces the number of a character. -/
def hexWidth?
    (c : Char) :
    Option Nat :=
  match c with
  | 'x' => some 2
  | 'u' => some 4
  | 'U' => some 8
  | _ => none

/-- Read the number of a character. -/
def numbered?
    (verbose : Bool)
    (width : Nat)
    (cs : List Char) :
    Option (PatternElement × List Char) :=
  match hexNumber? verbose width 0 cs with
  | none => none
  | some (value, rest) =>
    if value.isValidChar then
      some (.character (Char.ofNat value) (width == 2), rest)
    else
      none

/-- Read the one letter that names a property. -/
def property?
    (verbose : Bool)
    (cs : List Char) :
    Option (PatternElement × List Char) :=
  match skip verbose cs with
  | [] => none
  | c :: rest => if c == '\\' || c == '{' then none else some (.property, rest)

/-- What one character behind a backslash stands for. -/
def escaped?
    (c : Char) :
    Option PatternElement :=
  match c with
  | 'a' => some (.character (Char.ofNat 0x7) false)
  | 't' => some (.character '\t' false)
  | 'n' => some (.character '\n' false)
  | 'v' => some (.character (Char.ofNat 0xB) false)
  | 'f' => some (.character (Char.ofNat 0xC) false)
  | 'r' => some (.character '\r' false)
  | 'A' | 'z' => some .edge
  | 'b' | 'B' | '<' | '>' => some .wordEdge
  | 'd' | 's' | 'w' => some (.shorthand false)
  | 'D' | 'S' | 'W' => some (.shorthand true)
  | c => if c.toNat < 128 && !c.isAlphanum then some (.character c false) else none

/-- Read what follows a backslash. -/
def escape?
    (verbose : Bool) :
    List Char → Option (PatternElement × List Char)
  | [] => none
  | c :: rest =>
    if c == 'p' || c == 'P' then
      property? verbose rest
    else
      match hexWidth? c with
      | some width => numbered? verbose width rest
      | none => (escaped? c).map fun element => (element, rest)

end PatternElement

end MathProgram

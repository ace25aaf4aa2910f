/-!
# Switches of a pattern

A pattern has switches, each with a letter.  A list of letters turns switches on,
and after a minus sign it turns them off.  A letter stands there once at most.

Two switches decide what a part of a pattern means: whether case is ignored, and
whether characters are code points or bytes.  A third one, the verbose mode, says
that blanks and comments in the text of the pattern are skipped.
-/

namespace MathProgram

/-- The switches in force at some part of a pattern. -/
structure PatternFlags where
  ignoreCase : Bool
  unicode : Bool
  deriving DecidableEq, Repr

/-- The switches at the start of a pattern. -/
def PatternFlags.initial : PatternFlags where
  ignoreCase := false
  unicode := true

/-- What a list of switches turns on and off. -/
structure FlagChange where
  ignoreCase : Option Bool
  unicode : Option Bool
  verbose : Option Bool
  deriving DecidableEq, Repr

namespace FlagChange

/-- The empty list of switches. -/
def unchanged : FlagChange where
  ignoreCase := none
  unicode := none
  verbose := none

/-- The switches after a change. -/
def apply
    (change : FlagChange)
    (flags : PatternFlags) :
    PatternFlags where
  ignoreCase := change.ignoreCase.getD flags.ignoreCase
  unicode := change.unicode.getD flags.unicode

/-- Whether a character can stand in a list of switches. -/
def isLetter
    (c : Char) :
    Bool :=
  "imsUuRx-".toList.contains c

/-- What a list of letters says about one switch. -/
def setting?
    (letters : List Char)
    (letter : Char) :
    Option Bool :=
  if (letters.takeWhile (· != '-')).contains letter then
    some true
  else if letters.contains letter then
    some false
  else
    none

/-- Read a list of switches; a minus sign cannot end it. -/
def parse?
    (letters : List Char) :
    Option FlagChange :=
  if letters.all isLetter && letters.eraseDups == letters && letters.getLast? != some '-' then
    some
      { ignoreCase := setting? letters 'i'
        unicode := setting? letters 'u'
        verbose := setting? letters 'x' }
  else
    none

end FlagChange

end MathProgram

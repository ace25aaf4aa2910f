import MathProgram.Pattern.Set
import MathProgram.Pattern.Flags

/-!
# Patterns

A pattern is a regular expression.  Patterns are matched by an automaton that
reads the bytes of a text, and this module says for which patterns there is one.

**Code points.**  With code points the automaton has no tables of case and of
properties.  So case cannot be ignored, and shorthands, properties and edges of
words cannot be used.

**Bytes.**  With bytes those mean the characters below 128, and everything that
could match a part of a character is refused.

**Depth.**  The parts of a pattern are nested 250 deep at most.
-/

namespace MathProgram

/-- A regular expression. -/
inductive Pattern where
  | element (e : PatternElement)
  | set (s : PatternSet)
  | flags (change : FlagChange)
  | repeated (body : Pattern)
  | group (change : FlagChange) (body : Pattern)
  | sequence (items : List Pattern)
  | choice (branches : List Pattern)

namespace Pattern

/-- The parts of a sequence in order; a single part stands for itself. -/
def ofItems : List Pattern → Pattern
  | [item] => item
  | items => .sequence items

/-- The branches of a choice in order; a single branch stands for itself. -/
def ofBranches : List Pattern → Pattern
  | [branch] => branch
  | branches => .choice branches

mutual

/-- How deep the parts are nested. -/
def depth : Pattern → Nat
  | element _ => 0
  | set s => s.depth
  | flags _ => 0
  | repeated body => body.depth + 1
  | group _ body => body.depth + 1
  | sequence [] => 0
  | sequence (item :: rest) => max item.depth (depthOfAll rest) + 1
  | choice branches => depthOfAll branches + 1

/-- The depth of the deepest of some parts. -/
def depthOfAll : List Pattern → Nat
  | [] => 0
  | item :: rest => max item.depth (depthOfAll rest)

end

/-- The depth that is allowed. -/
def depthLimit : Nat :=
  250

/-- Whether an automaton can be built for an element. -/
def isBuildableElement
    (flags : PatternFlags) :
    PatternElement → Bool
  | .character c isByte =>
    if flags.unicode then !flags.ignoreCase else !(isByte && 128 ≤ c.toNat)
  | .anything => flags.unicode
  | .edge => true
  | .wordEdge => !flags.unicode
  | .shorthand negated => !flags.unicode && !negated
  | .property => false

/-- Whether an automaton can be built for a set. -/
def isBuildableSet
    (flags : PatternFlags)
    (s : PatternSet) :
    Bool :=
  if flags.unicode then s.isBuildable flags.ignoreCase else s.hasHighBytes?.isSome

mutual

/--
The switches behind a pattern, if an automaton can be built for it.  Switches in
a pattern hold up to the end of the innermost group around them.
-/
def flagsAfter?
    (current : PatternFlags) :
    Pattern → Option PatternFlags
  | element e => if isBuildableElement current e then some current else none
  | set s => if isBuildableSet current s then some current else none
  | flags change => some (change.apply current)
  | repeated body => body.flagsAfter? current
  | group change body =>
    match body.flagsAfter? (change.apply current) with
    | none => none
    | some _ => some current
  | sequence items => flagsAfterAll? current items
  | choice branches => flagsAfterAll? current branches

/-- The switches behind some patterns that follow one another in the text. -/
def flagsAfterAll?
    (current : PatternFlags) :
    List Pattern → Option PatternFlags
  | [] => some current
  | item :: rest =>
    match item.flagsAfter? current with
    | none => none
    | some next => flagsAfterAll? next rest

end

/-- Whether an automaton can be built for a pattern. -/
def isBuildable
    (p : Pattern) :
    Bool :=
  p.depth ≤ depthLimit && (p.flagsAfter? .initial).isSome

end Pattern

end MathProgram

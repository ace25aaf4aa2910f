import MathProgram.Pattern.Element

/-!
# Sets of characters in brackets

A set in brackets lists characters and ranges of characters, shorthands, named
classes, and sets in brackets.  A circumflex behind the opening bracket stands
for all other characters.  Two marks between lists take their intersection, their
difference, or what is in one of them only; they bind from the left.

A minus sign stands for itself at the start and before the closing bracket, and
so does a closing bracket at the start.
-/

namespace MathProgram

/-- How two sets are combined. -/
inductive SetOperation where
  | intersection
  | difference
  | symmetricDifference
  deriving DecidableEq, Repr

/-- A set of characters. -/
inductive PatternSet where
  | empty
  | range (first last : Char)
  | named (negated : Bool)
  | shorthand (negated : Bool)
  | property
  | bracketed (negated : Bool) (body : PatternSet)
  | union (members : List PatternSet)
  | combined (op : SetOperation) (left right : PatternSet)

namespace PatternSet

mutual

/-- How deep brackets, lists and combinations are nested. -/
def depth : PatternSet → Nat
  | bracketed _ body => body.depth + 1
  | union members => depthOfAll members + 1
  | combined _ left right => max left.depth right.depth + 1
  | _ => 0

/-- The depth of the deepest of some sets. -/
def depthOfAll : List PatternSet → Nat
  | [] => 0
  | member :: rest => max member.depth (depthOfAll rest)

end

mutual

/-- Whether a set of code points can be built without tables of case and of properties. -/
def isBuildable
    (ignoreCase : Bool) :
    PatternSet → Bool
  | empty => true
  | range _ _ => !ignoreCase
  | named _ => !ignoreCase
  | shorthand _ => false
  | property => false
  | bracketed _ body => body.isBuildable ignoreCase
  | union members => areBuildable ignoreCase members
  | combined _ left right => left.isBuildable ignoreCase && right.isBuildable ignoreCase

/-- Whether some sets can all be built. -/
def areBuildable
    (ignoreCase : Bool) :
    List PatternSet → Bool
  | [] => true
  | member :: rest => member.isBuildable ignoreCase && areBuildable ignoreCase rest

end

/-- Whether a combination has what its left and its right set have or have not. -/
def combine
    (op : SetOperation)
    (left right : Bool) :
    Bool :=
  match op with
  | .intersection => left && right
  | .difference => left && !right
  | .symmetricDifference => left != right

mutual

/--
Whether a set of bytes has bytes that are no characters of their own; it has all
of them or none.  A set in brackets must have none.
-/
def hasHighBytes? : PatternSet → Option Bool
  | empty => some false
  | range _ last => if last.toNat < 128 then some false else none
  | named negated => some negated
  | shorthand negated => if negated then none else some false
  | property => none
  | bracketed negated body =>
    match body.hasHighBytes? with
    | none => none
    | some high => if high == negated then some false else none
  | union members => anyHasHighBytes? members
  | combined op left right =>
    match left.hasHighBytes?, right.hasHighBytes? with
    | some leftHigh, some rightHigh => some (combine op leftHigh rightHigh)
    | _, _ => none

/-- Whether one of some sets of bytes has such bytes. -/
def anyHasHighBytes? : List PatternSet → Option Bool
  | [] => some false
  | member :: rest =>
    match member.hasHighBytes?, anyHasHighBytes? rest with
    | some high, some restHigh => some (high || restHigh)
    | _, _ => none

end

/-- The set of some members; a single member stands for itself. -/
def ofMembers : List PatternSet → PatternSet
  | [] => .empty
  | [member] => member
  | members => .union members

/-- The set that an element stands for; edges stand for none. -/
def ofElement? : PatternElement → Option PatternSet
  | .character c _ => some (.range c c)
  | .shorthand negated => some (.shorthand negated)
  | .property => some .property
  | .anything => none
  | .edge => none
  | .wordEdge => none

/-- The next piece of a set in brackets. -/
inductive Piece where
  | member (s : PatternSet)
  | leadingMinus
  | opening (negated : Bool)
  | closing
  | operation (op : SetOperation)

/-- Read one character of a set, or a backslash with what follows it. -/
def memberElement?
    (verbose : Bool) :
    List Char → Option (PatternElement × List Char)
  | [] => none
  | '\\' :: rest => PatternElement.escape? verbose rest
  | c :: rest => some (.character c false, rest)

/-- Read one member of a set or a range of characters. -/
def member?
    (verbose : Bool)
    (cs : List Char) :
    Option (Piece × List Char) := do
  let (first, rest) ← memberElement? verbose cs
  let single := (ofElement? first).map fun s => (Piece.member s, rest)
  match PatternElement.skip verbose rest with
  | '-' :: more =>
    match PatternElement.skip verbose more with
    | ']' :: _ => single
    | '-' :: _ => single
    | more =>
      let (last, rest) ← memberElement? verbose more
      match first, last with
      | .character a _, .character b _ =>
        if a ≤ b then some (.member (.range a b), rest) else none
      | _, _ => none
  | _ => single

/-- The names of the named classes. -/
def classNames : List String :=
  ["alnum", "alpha", "ascii", "blank", "cntrl", "digit", "graph", "lower", "print", "punct",
    "space", "upper", "word", "xdigit"]

/-- Read a named class behind its opening bracket and colon. -/
def namedBody?
    (negated : Bool)
    (cs : List Char) :
    Option (Piece × List Char) :=
  match cs.dropWhile (· != ':') with
  | ':' :: ']' :: rest =>
    if classNames.contains (String.ofList (cs.takeWhile (· != ':'))) then
      some (.member (.named negated), rest)
    else
      none
  | _ => none

/-- Read a named class behind its opening bracket. -/
def named? : List Char → Option (Piece × List Char)
  | ':' :: '^' :: rest => namedBody? true rest
  | ':' :: rest => namedBody? false rest
  | _ => none

/-- Read what follows an opening bracket inside of a set: a named class or another set. -/
def opened
    (verbose : Bool)
    (cs : List Char) :
    Piece × List Char :=
  match PatternElement.skip verbose cs with
  | '^' :: rest => (.opening true, rest)
  | rest => (.opening false, rest)

/-- Read the next piece; before it came only minus signs if `atStart`, and nothing if `isEmpty`. -/
def piece?
    (verbose atStart isEmpty : Bool)
    (cs : List Char) :
    Option (Piece × List Char) :=
  match cs with
  | '[' :: rest => some ((named? rest).getD (opened verbose rest))
  | ']' :: rest =>
    if atStart && isEmpty then some (.member (.range ']' ']'), rest) else some (.closing, rest)
  | '-' :: rest =>
    if atStart then
      some (.leadingMinus, rest)
    else
      match rest with
      | '-' :: more => some (.operation .difference, more)
      | _ => member? verbose cs
  | '&' :: '&' :: rest => some (.operation .intersection, rest)
  | '~' :: '~' :: rest => some (.operation .symmetricDifference, rest)
  | _ => member? verbose cs

/-- A set in brackets that is not closed yet; the latest member stands first. -/
structure Frame where
  negated : Bool
  atStart : Bool
  pending : Option (SetOperation × PatternSet)
  members : List PatternSet

namespace Frame

/-- A set that was just opened. -/
def opening
    (negated : Bool) :
    Frame where
  negated := negated
  atStart := true
  pending := none
  members := []

/-- Add a member. -/
def push
    (frame : Frame)
    (member : PatternSet) :
    Frame :=
  { frame with atStart := false, members := member :: frame.members }

/-- Add a minus sign at the start. -/
def pushMinus
    (frame : Frame) :
    Frame :=
  { frame with members := .range '-' '-' :: frame.members }

/-- What was read so far. -/
def contents
    (frame : Frame) :
    PatternSet :=
  let latest := ofMembers frame.members.reverse
  match frame.pending with
  | none => latest
  | some (op, left) => .combined op left latest

/-- Combine what was read so far with what follows. -/
def operate
    (frame : Frame)
    (op : SetOperation) :
    Frame :=
  { frame with atStart := false, pending := some (op, frame.contents), members := [] }

/-- The set, now that it is closed. -/
def close
    (frame : Frame) :
    PatternSet :=
  .bracketed frame.negated frame.contents

end Frame

/-- Read the rest of a set inside of other sets that are not closed either. -/
def parseFrames?
    (verbose : Bool) :
    Nat → Frame → List Frame → List Char → Option (PatternSet × List Char)
  | 0, _, _, _ => none
  | fuel + 1, frame, outer, cs =>
    match piece? verbose frame.atStart frame.members.isEmpty (PatternElement.skip verbose cs) with
    | none => none
    | some (.member s, rest) => parseFrames? verbose fuel (frame.push s) outer rest
    | some (.leadingMinus, rest) => parseFrames? verbose fuel frame.pushMinus outer rest
    | some (.opening negated, rest) =>
      parseFrames? verbose fuel (.opening negated) (frame :: outer) rest
    | some (.operation op, rest) => parseFrames? verbose fuel (frame.operate op) outer rest
    | some (.closing, rest) =>
      match outer with
      | [] => some (frame.close, rest)
      | parent :: outer => parseFrames? verbose fuel (parent.push frame.close) outer rest

/-- Read a set behind its opening bracket; every piece takes a character at least. -/
def parse?
    (verbose : Bool)
    (cs : List Char) :
    Option (PatternSet × List Char) :=
  match opened verbose cs with
  | (.opening negated, rest) => parseFrames? verbose (cs.length + 1) (.opening negated) [] rest
  | _ => none

end PatternSet

end MathProgram

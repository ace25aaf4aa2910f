import MathProgram.Pattern
import MathProgram.Text.Alphanumeric

/-!
# Reading patterns

A pattern is read from left to right.  A vertical line separates branches, and
parentheses hold groups.  Behind an opening parenthesis and a question mark there
may be the name of the group, in angle brackets, or a list of switches with a
colon; a list of switches that is closed at once holds for what follows.

Every mark for a repetition needs something to repeat, which may be a repetition
but not a list of switches.  A question mark behind it belongs to it.

An opening brace would start a count, and a count is never closed: patterns hold
no closing brace.
-/

namespace MathProgram

namespace Pattern

/-- The next piece of a pattern. -/
inductive Piece where
  | item (p : Pattern)
  | switches (change : FlagChange)
  | opening (change : FlagChange) (name : Option (List Char))
  | closing
  | bar
  | repetition

/-- Whether a text can be the name of a group. -/
def isGroupName : List Char → Bool
  | [] => false
  | first :: rest =>
    (first == '_' || CharClass.alphabetic.contains first) &&
      rest.all fun c =>
        c == '_' || c == '.' || c == '[' || c == ']' || CharClass.alphanumeric.contains c

/-- Read the name of a group up to its closing angle bracket. -/
def namedGroup?
    (cs : List Char) :
    Option (Piece × List Char) :=
  let name := cs.takeWhile (· != '>')
  match cs.dropWhile (· != '>') with
  | [] => none
  | _ :: rest =>
    if isGroupName name then some (.opening .unchanged (some name), rest) else none

/-- Read a list of switches, up to a colon or a closing parenthesis. -/
def switches?
    (cs : List Char) :
    Option (Piece × List Char) :=
  let letters := cs.takeWhile (fun c => c != ':' && c != ')')
  match FlagChange.parse? letters, cs.dropWhile (fun c => c != ':' && c != ')') with
  | some change, ':' :: rest => some (.opening change none, rest)
  | some change, ')' :: rest => if letters.isEmpty then none else some (.switches change, rest)
  | _, _ => none

/-- Read what follows an opening parenthesis. -/
def parenthesis?
    (cs : List Char) :
    Option (Piece × List Char) :=
  match cs with
  | '?' :: 'P' :: '<' :: rest => namedGroup? rest
  | '?' :: '<' :: rest => namedGroup? rest
  | '?' :: rest => switches? rest
  | rest => some (.opening .unchanged none, rest)

/-- Drop the question mark that belongs to a repetition. -/
def dropLazyMark : List Char → List Char
  | '?' :: rest => rest
  | cs => cs

/-- Read the next piece of a pattern, whose blanks and comments have been skipped. -/
def piece?
    (verbose : Bool) :
    List Char → Option (Piece × List Char)
  | [] => none
  | c :: rest =>
    match c with
    | '(' => parenthesis? (PatternElement.skip verbose rest)
    | ')' => some (.closing, rest)
    | '|' => some (.bar, rest)
    | '[' => (PatternSet.parse? verbose rest).map fun (s, rest) => (.item (.set s), rest)
    | '?' => some (.repetition, dropLazyMark rest)
    | '*' => some (.repetition, dropLazyMark rest)
    | '+' => some (.repetition, dropLazyMark rest)
    | '{' => none
    | '\\' =>
      (PatternElement.escape? verbose rest).map fun (e, rest) => (.item (.element e), rest)
    | '.' => some (.item (.element .anything), rest)
    | '^' => some (.item (.element .edge), rest)
    | '$' => some (.item (.element .edge), rest)
    | c => some (.item (.element (.character c false)), rest)

/-- A group that is not closed yet; the latest branch and the latest item stand first. -/
structure Frame where
  change : FlagChange
  verbose : Bool
  branches : List Pattern
  items : List Pattern

namespace Frame

/-- The whole of a pattern, before anything is read. -/
def whole : Frame where
  change := .unchanged
  verbose := false
  branches := []
  items := []

/-- A group that was just opened inside of another one. -/
def opening
    (parent : Frame)
    (change : FlagChange) :
    Frame where
  change := change
  verbose := change.verbose.getD parent.verbose
  branches := []
  items := []

/-- Add an item. -/
def push
    (frame : Frame)
    (item : Pattern) :
    Frame :=
  { frame with items := item :: frame.items }

/-- Change the switches from here on. -/
def switch
    (frame : Frame)
    (change : FlagChange) :
    Frame :=
  { frame.push (.flags change) with verbose := change.verbose.getD frame.verbose }

/-- End a branch. -/
def bar
    (frame : Frame) :
    Frame :=
  { frame with branches := ofItems frame.items.reverse :: frame.branches, items := [] }

/-- Repeat the latest item. -/
def repeatLatest?
    (frame : Frame) :
    Option Frame :=
  match frame.items with
  | [] => none
  | .flags _ :: _ => none
  | item :: rest => some { frame with items := .repeated item :: rest }

/-- What was read, as one pattern. -/
def body
    (frame : Frame) :
    Pattern :=
  ofBranches (ofItems frame.items.reverse :: frame.branches).reverse

end Frame

/-- Read the rest of a pattern inside of groups that are not closed, with the names so far. -/
def parseFrames? :
    Nat → Frame → List Frame → List (List Char) → List Char → Option Pattern
  | 0, _, _, _, _ => none
  | fuel + 1, frame, outer, names, cs =>
    match PatternElement.skip frame.verbose cs with
    | [] => if outer.isEmpty then some frame.body else none
    | cs =>
      match piece? frame.verbose cs with
      | none => none
      | some (.item p, rest) => parseFrames? fuel (frame.push p) outer names rest
      | some (.switches change, rest) => parseFrames? fuel (frame.switch change) outer names rest
      | some (.opening change none, rest) =>
        parseFrames? fuel (frame.opening change) (frame :: outer) names rest
      | some (.opening change (some name), rest) =>
        if names.contains name then
          none
        else
          parseFrames? fuel (frame.opening change) (frame :: outer) (name :: names) rest
      | some (.closing, rest) =>
        match outer with
        | [] => none
        | parent :: outer =>
          parseFrames? fuel (parent.push (.group frame.change frame.body)) outer names rest
      | some (.bar, rest) => parseFrames? fuel frame.bar outer names rest
      | some (.repetition, rest) =>
        match frame.repeatLatest? with
        | none => none
        | some frame => parseFrames? fuel frame outer names rest

/-- Read a pattern; every piece takes a character at least. -/
def parse?
    (text : List Char) :
    Option Pattern :=
  parseFrames? (text.length + 1) .whole [] [] text

/-- Whether a text is a pattern that can be matched. -/
def isUsable
    (text : List Char) :
    Bool :=
  (parse? text).any isBuildable

end Pattern

end MathProgram

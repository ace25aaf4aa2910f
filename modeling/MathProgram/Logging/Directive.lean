import MathProgram.Logging.Threshold
import MathProgram.Pattern.Parser
import MathProgram.Text.Bytes
import MathProgram.Text.Numeral

/-!
# Directives

A directive gives a threshold to some of the events: to all of them or to those
whose target begins with a given text, and of these perhaps only to the events
that carry a given field, or to the events inside a span.  The library opens no
spans, so a directive for a span applies to no event.

**Text.**  A directive is a threshold, or a target, or a target with an equals
sign and a threshold behind it.  Between target and equals sign there may be
brackets, which hold the name of a span, or a field in braces, or both; in front
of brackets the target may be missing.  A field may have a value, which is a
numeral or a pattern; then the directive is for spans.  Without a threshold
everything passes.  After any blanks the text begins with a letter, a number, a
bracket, or one of the marks `-`, `:` and `_`.

**Places.**  The parts are found in the text without the blanks at its start.
They are then taken from those places, counted in bytes, of the text with them.
So blanks at the start move every part to the left.

**Choice.**  Of two directives that apply to an event, the one with the longer
target decides.  With targets of one length a field outweighs no field, then the
greater name of a field decides, and then the later directive.
-/

namespace MathProgram

/-- What a directive asks of an event besides its target. -/
inductive EventCondition where
  | always
  | field (name : String)
  | inSpan
  deriving DecidableEq, Repr

namespace EventCondition

/-- Whether an event outside of every span meets the condition, by the names of its fields. -/
def holds
    (condition : EventCondition)
    (fieldNames : List String) :
    Bool :=
  match condition with
  | always => true
  | field name => fieldNames.contains name
  | inSpan => false

/-- The field that is asked for. -/
def field? : EventCondition → Option String
  | field name => some name
  | always => none
  | inSpan => none

/-- The condition on a field, besides a span or without one; a value makes it one on spans. -/
def ofField?
    (hasSpan : Bool)
    (field : List Char) :
    Option EventCondition :=
  match field.dropWhile (· != '=') with
  | [] => if hasSpan then some .inSpan else some (.field (String.ofList field))
  | _ :: more =>
    let value := more.takeWhile (· != '=')
    if isNumeral value || Pattern.isUsable value then some .inSpan else none

end EventCondition

/-- A threshold for the events with a target and a condition. -/
structure Directive where
  target : Option String
  condition : EventCondition
  threshold : Threshold
  deriving DecidableEq, Repr

namespace Directive

/-- The directive for all events. -/
def forAll
    (threshold : Threshold) :
    Directive where
  target := none
  condition := .always
  threshold := threshold

/-- Whether the directive applies to an event, by its target and the names of its fields. -/
def applies
    (d : Directive)
    (target : String)
    (fieldNames : List String) :
    Bool :=
  d.target.all (fun start => start.toList.isPrefixOf target.toList) &&
    d.condition.holds fieldNames

/-- The number of characters of a target that the directive fixes. -/
def reach
    (d : Directive) :
    Nat :=
  (d.target.map String.length).getD 0

/-- Whether a later directive decides in place of this one where both apply. -/
def yieldsTo
    (d later : Directive) :
    Bool :=
  d.reach < later.reach ||
    d.reach == later.reach &&
      match d.condition.field?, later.condition.field? with
      | none, _ => true
      | some _, none => false
      | some name, some laterName => name ≤ laterName

/-- Whether the text of a directive can begin with a character. -/
def isStart
    (c : Char) :
    Bool :=
  c == '[' || c == '-' || c == ':' || c == '_' || CharClass.alphanumeric.contains c

/-- Whether a character can stand in a target. -/
def isTargetChar
    (c : Char) :
    Bool :=
  c != '=' && c != '['

/-- The part of an item that lies at the place of a text behind another text. -/
def part?
    (item before text : List Char) :
    Option (List Char) :=
  (dropBytes? (byteSize before) item).bind fun rest => takeBytes? (byteSize text) rest

/-- The threshold that an item has at the place behind a text; everything if nothing is there. -/
def thresholdBehind?
    (item before : List Char) :
    Option Threshold :=
  match dropBytes? (byteSize before) item with
  | none => none
  | some [] => some (some .trace)
  | some text => Threshold.parse? (String.ofList text)

/-- The condition in brackets, the text before their end, and the text behind it. -/
def bracketed?
    (item before inner : List Char) :
    Option (EventCondition × List Char × List Char) := do
  let span := inner.takeWhile (fun c => c != ']' && c != '{')
  let _ ← part? item before span
  match inner.dropWhile (fun c => c != ']' && c != '{') with
  | ']' :: rest => some (.inSpan, before ++ span ++ [']'], rest)
  | _ :: braced =>
    let field := braced.takeWhile (· != '}')
    match field, braced.dropWhile (· != '}') with
    | _ :: _, '}' :: ']' :: rest =>
      let before := before ++ span ++ ['{']
      let condition ← EventCondition.ofField? (!span.isEmpty) (← part? item before field)
      some (condition, before ++ field ++ ['}', ']'], rest)
    | _, _ => none
  | [] => none

/-- The threshold behind brackets: nothing but blanks, or an equals sign and what follows it. -/
def ending?
    (item before : List Char) :
    List Char → Option Threshold
  | '=' :: _ => thresholdBehind? item (before ++ ['='])
  | rest => if rest.all CharClass.blank.contains then some (some .trace) else none

/-- Read the parts of an item, which are found in its text without the blanks at its start. -/
def parseParts?
    (item body : List Char) :
    Option Directive :=
  let name := body.takeWhile isTargetChar
  match body.dropWhile isTargetChar with
  | [] =>
    match Threshold.parse? (String.ofList item) with
    | some threshold => some (forAll threshold)
    | none =>
      some { target := some (String.ofList item), condition := .always, threshold := some .trace }
  | '[' :: inner => do
    let start ← part? item [] name
    let target := if name.isEmpty then none else some (String.ofList start)
    let (condition, before, rest) ← bracketed? item (name ++ ['[']) inner
    let threshold ← ending? item before rest
    some { target, condition, threshold }
  | _ => do
    let target ← part? item [] name
    let threshold ← thresholdBehind? item (name ++ ['='])
    some { target := some (String.ofList target), condition := .always, threshold }

/-- Read one item of a filter. -/
def parse?
    (item : String) :
    Option Directive :=
  let body := item.toList.dropWhile CharClass.blank.contains
  if body.head?.any isStart then parseParts? item.toList body else none

end Directive

end MathProgram

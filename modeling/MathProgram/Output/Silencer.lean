import MathProgram.Output.SharedRedirect

/-!
# Silencing both output streams

Each of the two streams has a shared redirect of its own.  A handle names its
stream and the redirect it holds.

Whether a redirect can be opened is up to the surroundings, so every operation
that may have to open one is handed the attempt as an action, or is told the
outcome in advance.
-/

namespace MathProgram

/-- One of the two output streams. -/
inductive StreamName where
  | stdout
  | stderr
  deriving DecidableEq, Repr

/-- A handle of the shared redirect of a stream. -/
structure Gag where
  stream : StreamName
  serial : Nat
  deriving DecidableEq, Repr

/-- The shared redirects of both streams. -/
structure Silencer where
  stdout : SharedRedirect
  stderr : SharedRedirect
  deriving DecidableEq, Repr

namespace Silencer

/-- No stream was ever silenced. -/
def unused : Silencer where
  stdout := .unused
  stderr := .unused

/-- The shared redirect of a stream. -/
def on
    (s : Silencer) :
    StreamName → SharedRedirect
  | .stdout => s.stdout
  | .stderr => s.stderr

/-- Replace the shared redirect of a stream. -/
def update
    (s : Silencer)
    (name : StreamName)
    (redirect : SharedRedirect) :
    Silencer :=
  match name with
  | .stdout => { s with stdout := redirect }
  | .stderr => { s with stderr := redirect }

/-- Take a handle for a stream, which fails only if a redirect has to be opened and cannot be. -/
def acquireBy
    {m : Type → Type}
    [Monad m]
    (s : Silencer)
    (name : StreamName)
    (attempt : StreamName → m Bool) :
    m (Option Gag × Silencer) := do
  let (serial?, redirect) ← (s.on name).acquireBy (attempt name)
  return (serial?.map fun serial => { stream := name, serial }, s.update name redirect)

/-- Take a handle for a stream when the outcome of opening a redirect is known in advance. -/
def acquire
    (s : Silencer)
    (name : StreamName)
    (opens : Bool) :
    Option Gag × Silencer :=
  Id.run (s.acquireBy name fun _ => pure opens)

/-- Give up a handle. -/
def release
    (s : Silencer)
    (gag : Gag) :
    Silencer :=
  s.update gag.stream ((s.on gag.stream).release gag.serial)

/-- The outcome of asking for silence. -/
inductive Silence where
  | notWanted
  | held (gag : Gag)
  | failed
  deriving DecidableEq, Repr

/-- Silence the standard output unless the log is to be shown. -/
def silenceUnlessBy
    {m : Type → Type}
    [Monad m]
    (s : Silencer)
    (showLog : Bool)
    (attempt : StreamName → m Bool) :
    m (Silence × Silencer) :=
  if showLog then
    return (.notWanted, s)
  else do
    match ← s.acquireBy .stdout attempt with
    | (some gag, next) => return (.held gag, next)
    | (none, next) => return (.failed, next)

/-- Silence the standard output when the outcome of opening a redirect is known in advance. -/
def silenceUnless
    (s : Silencer)
    (showLog : Bool)
    (opens : Bool) :
    Silence × Silencer :=
  Id.run (s.silenceUnlessBy showLog fun _ => pure opens)

end Silencer

end MathProgram

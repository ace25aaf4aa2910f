import MathProgram.Output.Silencer

/-!
# A console with silenced streams

Text that is printed while its stream is redirected is lost, and all other text
gets through.

**Redirects.**  Besides the shared redirects there are foreign ones, made without
regard to the shared ones.  No redirect can be opened while another one is in
place, and a handle can be taken then only by joining a shared redirect.

**Names.**  Handles are kept under names.  Giving a name to a new handle gives up
the handle it named before, after the new one was taken; when a handle cannot
be taken, its name keeps what it had.
-/

namespace MathProgram

/-- What keeps a stream redirected. -/
inductive Redirection where
  | shared (gag : Gag)
  | foreign (stream : StreamName)
  deriving DecidableEq, Repr

/-- The cause for which a redirect cannot be made: another one is in place. -/
inductive RedirectError where
  | alreadyRedirected
  deriving DecidableEq, Repr

namespace RedirectError

/-- The class of a failure. -/
def kind : RedirectError → String
  | alreadyRedirected => "AlreadyExists"

/-- The text of a failure. -/
def message : RedirectError → String
  | alreadyRedirected => "Redirect already exists."

end RedirectError

/--
The redirects in place, the text that got through to each stream, and what every
name holds: a redirection, or nothing on purpose.
-/
structure Console where
  silencer : Silencer
  foreign : List StreamName
  written : StreamName → String
  names : List (String × Option Redirection)

namespace Console

/-- A console that was never used. -/
def fresh : Console where
  silencer := .unused
  foreign := []
  written := fun _ => ""
  names := []

/-- Whether a redirect of a stream is in place. -/
def redirected
    (c : Console)
    (name : StreamName) :
    Bool :=
  c.foreign.contains name || (c.silencer.on name).inPlace

/-- Print text to a stream, which is lost while a redirect is in place. -/
def print
    (c : Console)
    (name : StreamName)
    (text : String) :
    Console :=
  if c.redirected name then
    c
  else
    { c with
      written := fun other => if other = name then c.written name ++ text else c.written other }

/-- Take a handle of the shared redirect of a stream. -/
def takeShared
    (c : Console)
    (name : StreamName) :
    Except RedirectError (Redirection × Console) :=
  match c.silencer.acquire name (!c.redirected name) with
  | (some gag, silencer) => .ok (.shared gag, { c with silencer })
  | (none, _) => .error .alreadyRedirected

/-- Redirect a stream without sharing. -/
def takeForeign
    (c : Console)
    (name : StreamName) :
    Except RedirectError (Redirection × Console) :=
  if c.redirected name then
    .error .alreadyRedirected
  else
    .ok (.foreign name, { c with foreign := name :: c.foreign })

/-- Silence the standard output unless the log is to be shown. -/
def silenceUnless
    (c : Console)
    (showLog : Bool) :
    Except RedirectError (Option Redirection × Console) :=
  match c.silencer.silenceUnless showLog (!c.redirected .stdout) with
  | (.notWanted, silencer) => .ok (none, { c with silencer })
  | (.held gag, silencer) => .ok (some (.shared gag), { c with silencer })
  | (.failed, _) => .error .alreadyRedirected

/-- Give up a redirection. -/
def release
    (c : Console) :
    Redirection → Console
  | .shared gag => { c with silencer := c.silencer.release gag }
  | .foreign name => { c with foreign := c.foreign.erase name }

/-- Forget a name and give up what it held, telling whether it held something. -/
def drop
    (c : Console)
    (name : String) :
    Bool × Console :=
  let others := { c with names := c.names.filter fun p => p.1 != name }
  match c.names.lookup name with
  | none => (false, c)
  | some none => (true, others)
  | some (some redirection) => (true, others.release redirection)

/-- Give a name to something just taken, giving up what the name held before. -/
def assign
    (c : Console)
    (name : String)
    (held : Option Redirection) :
    Console :=
  let cleared := (c.drop name).2
  { cleared with names := (name, held) :: cleared.names }

end Console

end MathProgram

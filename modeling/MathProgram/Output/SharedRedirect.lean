/-!
# Shared redirects of an output stream

A stream can be redirected to nowhere by at most one redirect at a time, so the
handles that silence it share one.  The owner of a stream remembers which
redirect was opened last.  A new handle joins it while some handle still holds
it, and otherwise tries to open another one.  The redirect ends with the last
handle that holds it.

Redirects are numbered in the order in which they were opened.
-/

namespace MathProgram

/-- The redirect that was opened last, and the redirect every live handle holds. -/
structure SharedRedirect where
  latest : Option Nat
  held : List Nat
  opened : Nat
  deriving DecidableEq, Repr

namespace SharedRedirect

/-- No redirect was ever opened. -/
def unused : SharedRedirect where
  latest := none
  held := []
  opened := 0

/-- The redirect that a new handle can join: the latest one, if a handle still holds it. -/
def live?
    (s : SharedRedirect) :
    Option Nat :=
  s.latest.filter fun serial => s.held.contains serial

/-- Whether some handle keeps the stream redirected. -/
def inPlace
    (s : SharedRedirect) :
    Bool :=
  !s.held.isEmpty

/--
Take a handle, giving the redirect it holds.  Only if there is none to join, a
redirect is opened by the action `attempt`, which tells whether that succeeded;
without success nothing changes.
-/
def acquireBy
    {m : Type → Type}
    [Monad m]
    (s : SharedRedirect)
    (attempt : m Bool) :
    m (Option Nat × SharedRedirect) :=
  match s.live? with
  | some serial => return (some serial, { s with held := serial :: s.held })
  | none => do
    if ← attempt then
      return (some s.opened,
        { latest := some s.opened, held := s.opened :: s.held, opened := s.opened + 1 })
    else
      return (none, s)

/-- Take a handle when it is known in advance whether opening a redirect would succeed. -/
def acquire
    (s : SharedRedirect)
    (opens : Bool) :
    Option Nat × SharedRedirect :=
  Id.run (s.acquireBy (pure opens))

/-- Give up one handle of a redirect. -/
def release
    (s : SharedRedirect)
    (serial : Nat) :
    SharedRedirect :=
  { s with held := s.held.erase serial }

/-- Whether giving up one handle of a redirect ends it. -/
def closes
    (s : SharedRedirect)
    (serial : Nat) :
    Bool :=
  s.held.contains serial && !(s.release serial).held.contains serial

end SharedRedirect

end MathProgram

import MathProgram.Output.SharedRedirect

/-!
# The redirects of one stream

A stream is used by taking handles and giving them up, in any order.  A handle is
known by the redirect it holds.  What happens to the stream itself is written down:
every attempt to open a redirect, and the end of every redirect.

**Stale redirects.**  The owner of a stream remembers the redirect that was opened
last, also after it has ended.  `RedirectUse.Sound` ties this memory to the live
handles: they all hold the remembered redirect, and every redirect that was opened
and is not held any more has ended.

**Results.**
* `RedirectUse.sound_after`: the invariant holds after every use of a stream.
* `RedirectUse.Sound.openIn_iff`: the redirects in place are those of live handles.
* `RedirectUse.Sound.acquire_of_mem`, `RedirectUse.Sound.acquire_of_live_eq_nil`: when a
  redirect is opened.
-/

namespace MathProgram

/-- What happens to a stream: a redirect is opened, cannot be opened, or ends. -/
inductive RedirectAction where
  | opened (serial : Nat)
  | refused
  | closed (serial : Nat)
  deriving DecidableEq, Repr

namespace RedirectAction

/-- The outcome of an attempt to open the redirect with the next number. -/
def ofAttempt
    (serial : Nat)
    (opens : Bool) :
    RedirectAction :=
  if opens then opened serial else refused

/-- Whether something was an attempt to open a redirect. -/
def IsAttempt : RedirectAction → Prop
  | opened _ => True
  | refused => True
  | closed _ => False

end RedirectAction

/-- A redirect that was opened and has not ended. -/
def OpenIn
    (log : List RedirectAction)
    (serial : Nat) :
    Prop :=
  .opened serial ∈ log ∧ .closed serial ∉ log

/-- No attempt to open a redirect was made while one was in place. -/
def AttemptsApart
    (log : List RedirectAction) :
    Prop :=
  ∀ before action after, log = before ++ action :: after → action.IsAttempt →
    ∀ serial, ¬ OpenIn before serial

/-- One way to use a stream; a handle is given up by naming the redirect it holds. -/
inductive RedirectStep where
  | acquire (opens : Bool)
  | drop (serial : Nat)

/-- A stream in use: what its owner knows, the redirect of every live handle, and what happened. -/
structure RedirectUse where
  shared : SharedRedirect
  live : List Nat
  log : List RedirectAction

namespace RedirectUse

/-- A stream that was never redirected. -/
def unused : RedirectUse where
  shared := .unused
  live := []
  log := []

/-- An attempt to open a redirect, which is noted whatever its outcome. -/
def attempt
    (serial : Nat)
    (opens : Bool) :
    StateM (List RedirectAction) Bool := do
  modify fun log => log ++ [.ofAttempt serial opens]
  return opens

/-- Ask for a handle; `opens` says whether an attempt to open a redirect would succeed. -/
def acquire
    (u : RedirectUse)
    (opens : Bool) :
    RedirectUse :=
  let ((serial?, shared), log) :=
    (u.shared.acquireBy (attempt u.shared.opened opens)).run u.log
  { shared, live := serial?.toList ++ u.live, log }

/-- Give up a live handle of a redirect, which ends with the last one. -/
def drop
    (u : RedirectUse)
    (serial : Nat) :
    RedirectUse :=
  if serial ∈ u.live then
    { shared := u.shared.release serial
      live := u.live.erase serial
      log := if u.shared.closes serial then u.log ++ [.closed serial] else u.log }
  else
    u

/-- A stream after one more handle joined a redirect. -/
def joined
    (u : RedirectUse)
    (serial : Nat) :
    RedirectUse :=
  { shared := { u.shared with held := serial :: u.shared.held }
    live := serial :: u.live
    log := u.log }

/-- A stream after a redirect was opened for one more handle. -/
def redirected
    (u : RedirectUse) :
    RedirectUse :=
  { shared :=
      { latest := some u.shared.opened
        held := u.shared.opened :: u.shared.held
        opened := u.shared.opened + 1 }
    live := u.shared.opened :: u.live
    log := u.log ++ [.opened u.shared.opened] }

/-- A stream after an attempt to open a redirect failed: nothing but the attempt is left. -/
def refused
    (u : RedirectUse) :
    RedirectUse :=
  { u with log := u.log ++ [.refused] }

/-- Use a stream once. -/
def perform
    (u : RedirectUse) :
    RedirectStep → RedirectUse
  | .acquire opens => u.acquire opens
  | .drop serial => u.drop serial

/-- A stream after it was used in a number of ways. -/
def after
    (steps : List RedirectStep) :
    RedirectUse :=
  steps.foldl perform unused

section Acquire

variable (u : RedirectUse)

theorem acquire_of_live?_eq_some
    {serial : Nat}
    (h : u.shared.live? = some serial)
    (opens : Bool) :
    u.acquire opens = u.joined serial := by
  unfold acquire SharedRedirect.acquireBy
  rw [h]
  rfl

theorem acquire_of_live?_eq_none
    (h : u.shared.live? = none)
    (opens : Bool) :
    u.acquire opens = if opens then u.redirected else u.refused := by
  unfold acquire SharedRedirect.acquireBy
  rw [h]
  cases opens <;> rfl

end Acquire

end RedirectUse

section Logs

/-- One more entry keeps attempts apart unless it is an attempt while a redirect is in place. -/
theorem AttemptsApart.concat
    {log : List RedirectAction}
    (h : AttemptsApart log)
    {last : RedirectAction}
    (hlast : last.IsAttempt → ∀ serial, ¬ OpenIn log serial) :
    AttemptsApart (log ++ [last]) := by
  intro before action after hsplit hattempt
  rcases List.eq_nil_or_concat after with rfl | ⟨rest, final, rfl⟩
  · obtain ⟨rfl, hsame⟩ := List.append_inj' hsplit rfl
    obtain rfl : last = action := (List.cons.inj hsame).1
    exact hlast hattempt
  · have hlonger : log ++ [last] = (before ++ action :: rest) ++ [final] := by
      simpa using hsplit
    exact h before action rest (List.append_inj' hlonger rfl).1 hattempt

end Logs

namespace RedirectUse

/-- The live handles share the redirect that was opened last, and all others have ended. -/
structure Sound
    (u : RedirectUse) :
    Prop where
  held_eq : u.shared.held = u.live
  latest_of_mem : ∀ serial ∈ u.live, u.shared.latest = some serial
  lt_of_latest : ∀ serial, u.shared.latest = some serial → serial < u.shared.opened
  count_opened : ∀ serial,
    u.log.count (.opened serial) = if serial < u.shared.opened then 1 else 0
  count_closed : ∀ serial,
    u.log.count (.closed serial) = if serial < u.shared.opened ∧ serial ∉ u.live then 1 else 0
  attemptsApart : AttemptsApart u.log

variable {u : RedirectUse}

namespace Sound

theorem eq_of_mem
    (h : u.Sound)
    {serial other : Nat}
    (hserial : serial ∈ u.live)
    (hother : other ∈ u.live) :
    serial = other := by
  exact Option.some.inj ((h.latest_of_mem _ hserial).symm.trans (h.latest_of_mem _ hother))

theorem lt_of_mem
    (h : u.Sound)
    {serial : Nat}
    (hserial : serial ∈ u.live) :
    serial < u.shared.opened := by
  exact h.lt_of_latest _ (h.latest_of_mem _ hserial)

theorem opened_mem_iff
    (h : u.Sound)
    {serial : Nat} :
    .opened serial ∈ u.log ↔ serial < u.shared.opened := by
  rw [← List.count_pos_iff, h.count_opened]
  split <;> simp_all

theorem closed_mem_iff
    (h : u.Sound)
    {serial : Nat} :
    .closed serial ∈ u.log ↔ serial < u.shared.opened ∧ serial ∉ u.live := by
  rw [← List.count_pos_iff, h.count_closed]
  split <;> simp_all

/-- A redirect is in place exactly while some handle holds it. -/
theorem openIn_iff
    (h : u.Sound)
    {serial : Nat} :
    OpenIn u.log serial ↔ serial ∈ u.live := by
  rw [OpenIn, h.opened_mem_iff, h.closed_mem_iff]
  by_cases hlive : serial ∈ u.live
  · simp [hlive, h.lt_of_mem hlive]
  · simp [hlive]

theorem live?_of_mem
    (h : u.Sound)
    {serial : Nat}
    (hserial : serial ∈ u.live) :
    u.shared.live? = some serial := by
  simp [SharedRedirect.live?, h.latest_of_mem serial hserial, h.held_eq, hserial]

/-- A redirect that has ended is not joined any more, although it is remembered. -/
theorem live?_of_live_eq_nil
    (h : u.Sound)
    (hnil : u.live = []) :
    u.shared.live? = none := by
  simp [SharedRedirect.live?, h.held_eq, hnil]

/-- Beside live handles another one joins their redirect, and no attempt is made. -/
theorem acquire_of_mem
    (h : u.Sound)
    {serial : Nat}
    (hserial : serial ∈ u.live)
    (opens : Bool) :
    u.acquire opens = u.joined serial :=
  u.acquire_of_live?_eq_some (h.live?_of_mem hserial) opens

/-- Without live handles an attempt is made, whatever redirect was opened last. -/
theorem acquire_of_live_eq_nil
    (h : u.Sound)
    (hnil : u.live = [])
    (opens : Bool) :
    u.acquire opens = if opens then u.redirected else u.refused :=
  u.acquire_of_live?_eq_none (h.live?_of_live_eq_nil hnil) opens

theorem closes_iff
    (h : u.Sound)
    {serial : Nat}
    (hserial : serial ∈ u.live) :
    u.shared.closes serial = true ↔ serial ∉ u.live.erase serial := by
  simp [SharedRedirect.closes, SharedRedirect.release, h.held_eq, hserial]

/-- A redirect ends with the last handle that holds it. -/
theorem drop_of_mem
    (h : u.Sound)
    {serial : Nat}
    (hserial : serial ∈ u.live) :
    u.drop serial
      =
    { shared := { u.shared with held := u.live.erase serial }
      live := u.live.erase serial
      log := if serial ∈ u.live.erase serial then u.log else u.log ++ [.closed serial] } := by
  have hcloses := h.closes_iff hserial
  unfold drop
  rw [if_pos hserial]
  by_cases hmore : serial ∈ u.live.erase serial <;>
    simp [SharedRedirect.release, h.held_eq, hcloses, hmore]

theorem joined
    (h : u.Sound)
    {serial : Nat}
    (hserial : serial ∈ u.live) :
    (u.joined serial).Sound := by
  have hmem (other : Nat) : other ∈ serial :: u.live ↔ other ∈ u.live := by
    simp only [List.mem_cons, or_iff_right_iff_imp]
    rintro rfl
    exact hserial
  refine ⟨congrArg (serial :: ·) h.held_eq, ?_, h.lt_of_latest, h.count_opened, ?_,
    h.attemptsApart⟩
  · intro other hother
    exact h.latest_of_mem other ((hmem other).mp hother)
  · intro other
    have hcount := h.count_closed other
    simpa only [RedirectUse.joined, hmem] using hcount

theorem redirected
    (h : u.Sound)
    (hnil : u.live = []) :
    u.redirected.Sound := by
  have hopen (serial : Nat) : ¬ OpenIn u.log serial := by
    simp [h.openIn_iff, hnil]
  -- The new redirect has the next number, and all others have numbers below it.
  have hlt {serial : Nat} (hne : serial ≠ u.shared.opened) :
      serial < u.shared.opened + 1 ↔ serial < u.shared.opened := by
    omega
  refine ⟨congrArg (u.shared.opened :: ·) h.held_eq, ?_, ?_, ?_, ?_,
    h.attemptsApart.concat fun _ => hopen⟩
  · simp [RedirectUse.redirected, hnil]
  · simp [RedirectUse.redirected]
  · intro serial
    have hcount := h.count_opened serial
    by_cases hnew : serial = u.shared.opened
    · subst hnew
      simp_all [RedirectUse.redirected]
    · simp_all [RedirectUse.redirected, eq_comm]
  · intro serial
    have hcount := h.count_closed serial
    by_cases hnew : serial = u.shared.opened
    · subst hnew
      simp_all [RedirectUse.redirected]
    · simp_all [RedirectUse.redirected]

theorem refused
    (h : u.Sound)
    (hnil : u.live = []) :
    u.refused.Sound := by
  have hopen (serial : Nat) : ¬ OpenIn u.log serial := by
    simp [h.openIn_iff, hnil]
  refine ⟨h.held_eq, h.latest_of_mem, h.lt_of_latest, ?_, ?_,
    h.attemptsApart.concat fun _ => hopen⟩
  · intro serial
    refine Eq.trans ?_ (h.count_opened serial)
    simp [RedirectUse.refused]
  · intro serial
    refine Eq.trans ?_ (h.count_closed serial)
    simp [RedirectUse.refused]

theorem acquire
    (h : u.Sound)
    (opens : Bool) :
    (u.acquire opens).Sound := by
  by_cases hnil : u.live = []
  · rw [h.acquire_of_live_eq_nil hnil]
    cases opens with
    | true => exact h.redirected hnil
    | false => exact h.refused hnil
  · obtain ⟨serial, hserial⟩ := List.exists_mem_of_ne_nil _ hnil
    rw [h.acquire_of_mem hserial]
    exact h.joined hserial

theorem drop
    (h : u.Sound)
    (serial : Nat) :
    (u.drop serial).Sound := by
  by_cases hserial : serial ∈ u.live
  · rw [h.drop_of_mem hserial]
    have hlatest (other : Nat) (hother : other ∈ u.live.erase serial) :
        u.shared.latest = some other :=
      h.latest_of_mem other (List.mem_of_mem_erase hother)
    by_cases hmore : serial ∈ u.live.erase serial
    · rw [if_pos hmore]
      refine ⟨rfl, hlatest, h.lt_of_latest, h.count_opened, ?_, h.attemptsApart⟩
      intro other
      have hmem : other ∈ u.live.erase serial ↔ other ∈ u.live := by
        constructor
        · exact List.mem_of_mem_erase
        · intro hother
          rwa [h.eq_of_mem hother hserial]
      have hcount := h.count_closed other
      simpa only [hmem] using hcount
    · rw [if_neg hmore]
      refine ⟨rfl, hlatest, h.lt_of_latest, ?_, ?_, h.attemptsApart.concat fun hnot => hnot.elim⟩
      · intro other
        have hcount := h.count_opened other
        simpa using hcount
      · intro other
        have hcount := h.count_closed other
        by_cases hsame : other = serial
        · subst hsame
          simp_all [h.lt_of_mem hserial]
        · have hmem : other ∈ u.live.erase serial ↔ other ∈ u.live :=
            List.mem_erase_of_ne hsame
          simp_all [eq_comm]
  · have hnone : u.drop serial = u := if_neg hserial
    rwa [hnone]

theorem perform
    (h : u.Sound)
    (step : RedirectStep) :
    (u.perform step).Sound := by
  cases step with
  | acquire opens => exact h.acquire opens
  | drop serial => exact h.drop serial

end Sound

theorem sound_unused :
    unused.Sound where
  held_eq := rfl
  latest_of_mem := by
    intro serial hserial
    cases hserial
  lt_of_latest := by
    intro serial hserial
    cases hserial
  count_opened _ := rfl
  count_closed _ := rfl
  attemptsApart := by
    intro before action after hsplit
    simp [unused] at hsplit

theorem sound_after
    (steps : List RedirectStep) :
    (after steps).Sound := by
  have hall : ∀ u : RedirectUse, u.Sound → (steps.foldl perform u).Sound := by
    induction steps with
    | nil => exact fun u hu => hu
    | cons step steps ih => exact fun u hu => ih _ (hu.perform step)
  exact hall unused sound_unused

end RedirectUse

end MathProgram

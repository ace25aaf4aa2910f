import MathProgram.Output.Silencer
import MathProgram.Proofs.RedirectUse

/-!
# Silencing both streams at once

Both streams are in use together: handles of either one are taken and given up in
any order, and every attempt to open a redirect succeeds or fails as it pleases.

**One stream at a time.**  `SilencerUse.on` keeps only what concerns one stream.
It turns every step into a step of that stream, or into nothing (`on_perform`).  So
the whole use of both streams is, for each of them, a use of that stream alone
(`on_after`), and neither stream ever affects the other.

**Results.**
* `SilencerUse.on_after`: what concerns one stream is a use of that stream.
* `SilencerUse.redirect_shared_while_held`: how the handles of a stream share its redirect.
-/

namespace MathProgram

namespace Silencer

@[simp] theorem on_update_self
    (s : Silencer)
    (name : StreamName)
    (redirect : SharedRedirect) :
    (s.update name redirect).on name = redirect := by
  cases name <;> rfl

theorem on_update_of_ne
    (s : Silencer)
    {name other : StreamName}
    (h : name ≠ other)
    (redirect : SharedRedirect) :
    (s.update name redirect).on other = s.on other := by
  cases name <;> cases other <;> first | rfl | exact absurd rfl h

@[simp] theorem update_on
    (s : Silencer)
    (name : StreamName) :
    s.update name (s.on name) = s := by
  cases name <;> rfl

/-- The handle that was obtained, if there is one. -/
def Silence.gag? : Silence → Option Gag
  | .notWanted => none
  | .held gag => some gag
  | .failed => none

end Silencer

section Erase

variable {α β : Type} [BEq α] [LawfulBEq α] [BEq β] [LawfulBEq β]

/-- Erasing an entry erases its value, if no other entry has the same value. -/
theorem filterMap_erase
    {f : α → Option β}
    (hf : ∀ a other b, f a = some b → f other = some b → a = other)
    (as : List α)
    (a : α) :
    (as.erase a).filterMap f
      =
    match f a with
    | some b => (as.filterMap f).erase b
    | none => as.filterMap f := by
  induction as with
  | nil => cases f a <;> rfl
  | cons first rest ih =>
    by_cases hsame : first = a
    · subst hsame
      cases hvalue : f first <;> simp [hvalue]
    · rw [List.erase_cons_tail (by simpa using hsame)]
      cases hvalue : f a with
      | none => simp [List.filterMap_cons, ih, hvalue]
      | some b =>
        have hother : f first ≠ some b := fun h => hsame (hf _ _ b h hvalue)
        cases hfirst : f first with
        | none => simp [hfirst, ih, hvalue]
        | some c =>
          have hne : ¬ (c == b) = true := by
            simpa [hfirst] using hother
          simp [hfirst, ih, hvalue, List.erase_cons_tail hne]

end Erase

/-- One way to use the two streams. -/
inductive SilencerStep where
  | acquire (name : StreamName) (opens : Bool)
  | silenceUnless (showLog opens : Bool)
  | drop (gag : Gag)

/-- What a step of both streams is for one of them, if it concerns that one. -/
def SilencerStep.on?
    (name : StreamName) :
    SilencerStep → Option RedirectStep
  | acquire stream opens => if stream = name then some (.acquire opens) else none
  | silenceUnless showLog opens =>
    if showLog = false ∧ .stdout = name then some (.acquire opens) else none
  | drop gag => if gag.stream = name then some (.drop gag.serial) else none

/-- Both streams in use: what their owner knows, the live handles, and what happened. -/
structure SilencerUse where
  silencer : Silencer
  live : List Gag
  log : List (StreamName × RedirectAction)

namespace SilencerUse

/-- Streams that were never silenced. -/
def unused : SilencerUse where
  silencer := .unused
  live := []
  log := []

/-- An attempt to redirect a stream, which is noted whatever its outcome. -/
def attempt
    (s : Silencer)
    (opens : Bool)
    (name : StreamName) :
    StateM (List (StreamName × RedirectAction)) Bool := do
  modify fun log => log ++ [(name, .ofAttempt (s.on name).opened opens)]
  return opens

/-- Ask for a handle; `opens` says whether an attempt to open a redirect would succeed. -/
def acquire
    (u : SilencerUse)
    (name : StreamName)
    (opens : Bool) :
    SilencerUse :=
  let ((gag?, silencer), log) :=
    (u.silencer.acquireBy name (attempt u.silencer opens)).run u.log
  { silencer, live := gag?.toList ++ u.live, log }

/-- Ask for silence unless the log is to be shown. -/
def silenceUnless
    (u : SilencerUse)
    (showLog opens : Bool) :
    SilencerUse :=
  let ((outcome, silencer), log) :=
    (u.silencer.silenceUnlessBy showLog (attempt u.silencer opens)).run u.log
  { silencer, live := outcome.gag?.toList ++ u.live, log }

/-- Give up a live handle. -/
def drop
    (u : SilencerUse)
    (gag : Gag) :
    SilencerUse :=
  if gag ∈ u.live then
    { silencer := u.silencer.release gag
      live := u.live.erase gag
      log :=
        if (u.silencer.on gag.stream).closes gag.serial then
          u.log ++ [(gag.stream, .closed gag.serial)]
        else
          u.log }
  else
    u

/-- Use the streams once. -/
def perform
    (u : SilencerUse) :
    SilencerStep → SilencerUse
  | .acquire name opens => u.acquire name opens
  | .silenceUnless showLog opens => u.silenceUnless showLog opens
  | .drop gag => u.drop gag

/-- The streams after they were used in a number of ways. -/
def after
    (history : List SilencerStep) :
    SilencerUse :=
  history.foldl perform unused

section OneStream

/-- The redirect a handle holds, if it is a handle of the given stream. -/
def serialOn
    (name : StreamName)
    (gag : Gag) :
    Option Nat :=
  if gag.stream = name then some gag.serial else none

/-- What happened to a stream, if an entry is about the given one. -/
def actionOn
    (name : StreamName)
    (entry : StreamName × RedirectAction) :
    Option RedirectAction :=
  if entry.1 = name then some entry.2 else none

/-- What concerns one of the two streams. -/
def on
    (u : SilencerUse)
    (name : StreamName) :
    RedirectUse where
  shared := u.silencer.on name
  live := u.live.filterMap (serialOn name)
  log := u.log.filterMap (actionOn name)

theorem serialOn_eq_some_iff
    {name : StreamName}
    {gag : Gag}
    {serial : Nat} :
    serialOn name gag = some serial ↔ gag = ⟨name, serial⟩ := by
  obtain ⟨stream, held⟩ := gag
  simp [serialOn]

theorem mem_live_on
    {u : SilencerUse}
    {name : StreamName}
    {serial : Nat} :
    serial ∈ (u.on name).live ↔ ⟨name, serial⟩ ∈ u.live := by
  simp [on, List.mem_filterMap, serialOn_eq_some_iff]

theorem live_on_eq_nil_iff
    {u : SilencerUse}
    {name : StreamName} :
    (u.on name).live = [] ↔ ∀ gag ∈ u.live, gag.stream ≠ name := by
  simp [on, List.filterMap_eq_nil_iff, serialOn]

end OneStream

section Steps

variable (u : SilencerUse)

/-- A handle that joins a redirect is the only thing that changes. -/
theorem acquire_of_live?_eq_some
    {name : StreamName}
    {serial : Nat}
    (h : (u.silencer.on name).live? = some serial)
    (opens : Bool) :
    u.acquire name opens
      =
    { silencer := u.silencer.update name
        { u.silencer.on name with held := serial :: (u.silencer.on name).held }
      live := ⟨name, serial⟩ :: u.live
      log := u.log } := by
  unfold acquire Silencer.acquireBy SharedRedirect.acquireBy
  rw [h]
  rfl

/-- An attempt that fails is noted, and nothing else happens. -/
theorem acquire_false_of_live?_eq_none
    {name : StreamName}
    (h : (u.silencer.on name).live? = none) :
    u.acquire name false = { u with log := u.log ++ [(name, .refused)] } := by
  have hsame : u.silencer.update name (u.silencer.on name) = u.silencer :=
    u.silencer.update_on name
  unfold acquire Silencer.acquireBy SharedRedirect.acquireBy
  rw [h]
  show SilencerUse.mk (u.silencer.update name (u.silencer.on name)) _ _ = _
  rw [hsame]
  rfl

/-- An attempt that succeeds gives a handle of the redirect with the next number. -/
theorem acquire_true_of_live?_eq_none
    {name : StreamName}
    (h : (u.silencer.on name).live? = none) :
    u.acquire name true
      =
    { silencer := u.silencer.update name
        { latest := some (u.silencer.on name).opened
          held := (u.silencer.on name).opened :: (u.silencer.on name).held
          opened := (u.silencer.on name).opened + 1 }
      live := ⟨name, (u.silencer.on name).opened⟩ :: u.live
      log := u.log ++ [(name, .opened (u.silencer.on name).opened)] } := by
  unfold acquire Silencer.acquireBy SharedRedirect.acquireBy
  rw [h]
  rfl

theorem log_acquire_of_live?_eq_none
    {name : StreamName}
    (h : (u.silencer.on name).live? = none)
    (opens : Bool) :
    (u.acquire name opens).log
      = u.log ++ [(name, .ofAttempt (u.silencer.on name).opened opens)] := by
  cases opens with
  | true =>
    rw [u.acquire_true_of_live?_eq_none h]
    rfl
  | false =>
    rw [u.acquire_false_of_live?_eq_none h]
    rfl

/-- Asking for silence is asking for a handle of the standard output, or nothing. -/
theorem silenceUnless_eq
    (showLog opens : Bool) :
    u.silenceUnless showLog opens = if showLog then u else u.acquire .stdout opens := by
  cases showLog with
  | true => rfl
  | false =>
    cases hlive : (u.silencer.on .stdout).live? with
    | some serial =>
      rw [u.acquire_of_live?_eq_some hlive]
      unfold silenceUnless Silencer.silenceUnlessBy Silencer.acquireBy SharedRedirect.acquireBy
      rw [hlive]
      rfl
    | none =>
      unfold acquire silenceUnless Silencer.silenceUnlessBy Silencer.acquireBy
        SharedRedirect.acquireBy
      rw [hlive]
      cases opens <;> rfl

end Steps

section Projection

variable (u : SilencerUse)

/-- A handle of a stream is asked for on that stream. -/
theorem on_acquire_self
    (name : StreamName)
    (opens : Bool) :
    (u.acquire name opens).on name = (u.on name).acquire opens := by
  cases hlive : (u.silencer.on name).live? with
  | some serial =>
    have hown : (u.on name).shared.live? = some serial := hlive
    rw [u.acquire_of_live?_eq_some hlive, (u.on name).acquire_of_live?_eq_some hown]
    simp [on, RedirectUse.joined, serialOn]
  | none =>
    rw [(u.on name).acquire_of_live?_eq_none hlive]
    cases opens with
    | true =>
      rw [u.acquire_true_of_live?_eq_none hlive]
      simp [on, RedirectUse.redirected, serialOn, actionOn]
    | false =>
      rw [u.acquire_false_of_live?_eq_none hlive]
      simp [on, RedirectUse.refused, actionOn]

theorem on_acquire_of_ne
    {name other : StreamName}
    (h : name ≠ other)
    (opens : Bool) :
    (u.acquire name opens).on other = u.on other := by
  cases hlive : (u.silencer.on name).live? with
  | some serial =>
    rw [u.acquire_of_live?_eq_some hlive]
    simp [on, serialOn, h, Silencer.on_update_of_ne]
  | none =>
    cases opens with
    | true =>
      rw [u.acquire_true_of_live?_eq_none hlive]
      simp [on, serialOn, actionOn, h, Silencer.on_update_of_ne]
    | false =>
      rw [u.acquire_false_of_live?_eq_none hlive]
      simp [on, actionOn, h]

theorem filterMap_erase_serialOn
    (name : StreamName)
    (gag : Gag) :
    (u.live.erase gag).filterMap (serialOn name)
      =
    if gag.stream = name then
      (u.live.filterMap (serialOn name)).erase gag.serial
    else
      u.live.filterMap (serialOn name) := by
  have hinjective : ∀ gag other serial,
      serialOn name gag = some serial → serialOn name other = some serial → gag = other := by
    intro gag other serial hgag hother
    rw [serialOn_eq_some_iff.mp hgag, serialOn_eq_some_iff.mp hother]
  rw [filterMap_erase hinjective]
  by_cases hname : gag.stream = name
  · simp [serialOn, hname]
  · simp [serialOn, hname]

theorem mem_erase_live_on
    {u : SilencerUse}
    {name : StreamName}
    {serial : Nat} :
    serial ∈ (u.on name).live.erase serial ↔ ⟨name, serial⟩ ∈ u.live.erase ⟨name, serial⟩ := by
  have herase := u.filterMap_erase_serialOn name ⟨name, serial⟩
  rw [if_pos rfl] at herase
  show serial ∈ (u.live.filterMap (serialOn name)).erase serial ↔ _
  rw [← herase]
  simp [List.mem_filterMap, serialOn_eq_some_iff]

/-- A handle of a stream is given up on that stream. -/
theorem on_drop_self
    (gag : Gag) :
    (u.drop gag).on gag.stream = (u.on gag.stream).drop gag.serial := by
  have hmem : gag.serial ∈ (u.on gag.stream).live ↔ gag ∈ u.live := mem_live_on
  have herase := u.filterMap_erase_serialOn gag.stream gag
  rw [if_pos rfl] at herase
  unfold drop RedirectUse.drop
  by_cases hgag : gag ∈ u.live
  · rw [if_pos hgag, if_pos (hmem.mpr hgag)]
    by_cases hcloses : (u.silencer.on gag.stream).closes gag.serial = true <;>
      simp [on, Silencer.release, actionOn, hcloses, herase]
  · rw [if_neg hgag, if_neg (mt hmem.mp hgag)]

theorem on_drop_of_ne
    {gag : Gag}
    {name : StreamName}
    (h : gag.stream ≠ name) :
    (u.drop gag).on name = u.on name := by
  have herase := u.filterMap_erase_serialOn name gag
  rw [if_neg h] at herase
  unfold drop
  by_cases hgag : gag ∈ u.live
  · rw [if_pos hgag]
    by_cases hcloses : (u.silencer.on gag.stream).closes gag.serial = true <;>
      simp [on, Silencer.release, actionOn, hcloses, h, herase, Silencer.on_update_of_ne]
  · rw [if_neg hgag]

/-- For one stream, a step of both is a step of that stream or nothing at all. -/
theorem on_perform
    (name : StreamName)
    (step : SilencerStep) :
    (u.perform step).on name
      =
    match step.on? name with
    | some own => (u.on name).perform own
    | none => u.on name := by
  have hacquire (stream : StreamName) (opens : Bool) :
      (u.acquire stream opens).on name
        = if stream = name then (u.on name).acquire opens else u.on name := by
    by_cases hname : stream = name
    · subst hname
      rw [if_pos rfl, on_acquire_self]
    · rw [if_neg hname, u.on_acquire_of_ne hname]
  cases step with
  | acquire stream opens =>
    simp only [perform, hacquire, SilencerStep.on?]
    split <;> rfl
  | silenceUnless showLog opens =>
    cases showLog with
    | true => simp [perform, silenceUnless_eq, SilencerStep.on?]
    | false =>
      by_cases hname : StreamName.stdout = name <;>
        simp [perform, silenceUnless_eq, hacquire, SilencerStep.on?, hname, RedirectUse.perform]
  | drop gag =>
    by_cases hname : gag.stream = name
    · subst hname
      simp only [perform, SilencerStep.on?, on_drop_self]
      rfl
    · simp only [perform, SilencerStep.on?, if_neg hname]
      exact u.on_drop_of_ne hname

end Projection

/-- What concerns one stream after any use of both is a use of that stream alone. -/
theorem on_after
    (history : List SilencerStep)
    (name : StreamName) :
    (after history).on name = .after (history.filterMap (SilencerStep.on? name)) := by
  have hall : ∀ u : SilencerUse,
      (history.foldl perform u).on name
        = (history.filterMap (SilencerStep.on? name)).foldl RedirectUse.perform (u.on name) := by
    induction history with
    | nil => exact fun u => rfl
    | cons step history ih =>
      intro u
      rw [List.foldl_cons, ih, on_perform]
      cases hstep : step.on? name <;> simp [hstep]
  have hunused : unused.on name = .unused := by
    cases name <;> rfl
  rw [after, hall, hunused]
  rfl

section Sharing

/-- How the handles of one stream share its redirect at some moment. -/
structure SharesOn
    (u : SilencerUse)
    (name : StreamName) :
    Prop where
  /-- All live handles hold the same redirect. -/
  same : ∀ gag ∈ u.live, ∀ other ∈ u.live,
    gag.stream = name → other.stream = name → gag = other
  /-- A redirect was opened and has not ended exactly while a live handle holds it. -/
  openIn_iff : ∀ serial, OpenIn (u.on name).log serial ↔ ⟨name, serial⟩ ∈ u.live
  /-- The stream counts as redirected exactly while it has a live handle. -/
  inPlace_iff : (u.silencer.on name).inPlace = true ↔ ∃ gag ∈ u.live, gag.stream = name
  /-- There is at most one redirect at a time. -/
  eq_of_openIn : ∀ serial other,
    OpenIn (u.on name).log serial → OpenIn (u.on name).log other → serial = other
  /-- No attempt to open a redirect was ever made while one was in place. -/
  attemptsApart : AttemptsApart (u.on name).log
  /-- Every redirect is opened once. -/
  count_opened : ∀ serial, (u.on name).log.count (.opened serial) ≤ 1
  /-- Every redirect that was opened ends once, when it has no live handle left. -/
  count_closed : ∀ serial, (u.on name).log.count (.closed serial)
    = if .opened serial ∈ (u.on name).log ∧ ⟨name, serial⟩ ∉ u.live then 1 else 0

/-- What asking for a handle of one stream does, and what giving one up does. -/
structure StepsOn
    (u : SilencerUse)
    (name : StreamName) :
    Prop where
  /-- Beside a live handle another one joins its redirect, and no attempt is made. -/
  joins : ∀ gag ∈ u.live, gag.stream = name → ∀ opens,
    (u.perform (.acquire name opens)).live = gag :: u.live ∧
      (u.perform (.acquire name opens)).log = u.log
  /-- Without live handles an attempt is made, and success gives a handle of its redirect. -/
  attempts : (∀ gag ∈ u.live, gag.stream ≠ name) → ∀ opens,
    (u.perform (.acquire name opens)).live
        = (if opens then [⟨name, (u.silencer.on name).opened⟩] else []) ++ u.live ∧
      (u.perform (.acquire name opens)).log
        = u.log ++ [(name, .ofAttempt (u.silencer.on name).opened opens)]
  /-- An attempt that fails is noted, and nothing else changes. -/
  refuses : (∀ gag ∈ u.live, gag.stream ≠ name) →
    u.perform (.acquire name false) = { u with log := u.log ++ [(name, .refused)] }
  /-- After a failure the next one to ask makes another attempt. -/
  retries : (∀ gag ∈ u.live, gag.stream ≠ name) → ∀ opens,
    ((u.perform (.acquire name false)).perform (.acquire name opens)).log
      = u.log ++ [(name, .refused), (name, .ofAttempt (u.silencer.on name).opened opens)]
  /-- A handle that is given up leaves the others, and the last one ends the redirect. -/
  drops : ∀ gag ∈ u.live, gag.stream = name →
    (u.perform (.drop gag)).live = u.live.erase gag ∧
      (u.perform (.drop gag)).log
        = if gag ∈ u.live.erase gag then u.log else u.log ++ [(name, .closed gag.serial)]

variable {u : SilencerUse} {name : StreamName}

/-- The invariant of one stream says how its handles share the redirect. -/
theorem sharesOn_of_sound
    (h : (u.on name).Sound) :
    u.SharesOn name where
  same := by
    rintro ⟨_, serial⟩ hgag ⟨_, other⟩ hother rfl rfl
    rw [h.eq_of_mem (mem_live_on.mpr hgag) (mem_live_on.mpr hother)]
  openIn_iff serial := h.openIn_iff.trans mem_live_on
  inPlace_iff := by
    have hheld : (u.silencer.on name).held = (u.on name).live := h.held_eq
    have hnil : (u.on name).live = [] ↔ ∀ gag ∈ u.live, gag.stream ≠ name := live_on_eq_nil_iff
    rw [SharedRedirect.inPlace, hheld]
    simp [hnil]
  eq_of_openIn serial other hserial hother :=
    h.eq_of_mem (h.openIn_iff.mp hserial) (h.openIn_iff.mp hother)
  attemptsApart := h.attemptsApart
  count_opened serial := by
    rw [h.count_opened]
    split <;> omega
  count_closed serial := by
    simp only [h.count_closed, h.opened_mem_iff, mem_live_on]

/-- The invariant of one stream says what its next step does. -/
theorem stepsOn_of_sound
    (h : (u.on name).Sound) :
    u.StepsOn name := by
  have hlive? (hfree : ∀ gag ∈ u.live, gag.stream ≠ name) : (u.silencer.on name).live? = none :=
    h.live?_of_live_eq_nil (live_on_eq_nil_iff.mpr hfree)
  have hrefuses (hfree : ∀ gag ∈ u.live, gag.stream ≠ name) :
      u.perform (.acquire name false) = { u with log := u.log ++ [(name, .refused)] } :=
    u.acquire_false_of_live?_eq_none (hlive? hfree)
  refine ⟨?joins, ?attempts, hrefuses, ?retries, ?drops⟩
  case joins =>
    rintro ⟨_, serial⟩ hgag rfl opens
    have hjoin : (u.silencer.on _).live? = some serial := h.live?_of_mem (mem_live_on.mpr hgag)
    rw [perform, u.acquire_of_live?_eq_some hjoin]
    exact ⟨rfl, rfl⟩
  case attempts =>
    intro hfree opens
    refine ⟨?_, u.log_acquire_of_live?_eq_none (hlive? hfree) opens⟩
    cases opens with
    | true =>
      rw [perform, u.acquire_true_of_live?_eq_none (hlive? hfree)]
      rfl
    | false =>
      rw [hrefuses hfree]
      rfl
  case retries =>
    intro hfree opens
    -- The owner knows what it knew before the failure.
    let later : SilencerUse := { u with log := u.log ++ [(name, .refused)] }
    have hlater : (later.acquire name opens).log = _ :=
      later.log_acquire_of_live?_eq_none (hlive? hfree) opens
    rw [hrefuses hfree]
    exact hlater.trans (List.append_assoc ..)
  case drops =>
    intro gag hgag hname
    subst hname
    have hmem : gag.serial ∈ (u.on gag.stream).live := mem_live_on.mpr hgag
    have hcloses : (u.silencer.on gag.stream).closes gag.serial = true ↔ gag ∉ u.live.erase gag :=
      (h.closes_iff hmem).trans (not_congr mem_erase_live_on)
    rw [perform, drop, if_pos hgag]
    refine ⟨rfl, ?_⟩
    by_cases hlast : gag ∈ u.live.erase gag <;> simp [hcloses, hlast]

end Sharing

/--
However the two streams are used: the live handles of each of them share one
redirect, which is in place while there is such a handle and ends once; an attempt
to open one is made exactly without such a handle, and a failed one changes
nothing.  What concerns one stream is a use of that stream alone.  Asking for
silence does nothing if the log is to be shown, and else asks for a handle of the
standard output.
-/
theorem redirect_shared_while_held
    (history : List SilencerStep)
    (name : StreamName) :
    (after history).SharesOn name ∧
      (after history).StepsOn name ∧
      (after history).on name = .after (history.filterMap (SilencerStep.on? name)) ∧
      ∀ opens,
        (after history).perform (.silenceUnless true opens) = after history ∧
          (after history).perform (.silenceUnless false opens)
            = (after history).perform (.acquire .stdout opens) := by
  have hsound : ((after history).on name).Sound := by
    rw [on_after]
    exact RedirectUse.sound_after _
  refine ⟨sharesOn_of_sound hsound, stepsOn_of_sound hsound, on_after history name, ?_⟩
  intro opens
  exact ⟨silenceUnless_eq _ true opens, silenceUnless_eq _ false opens⟩

-- The ended redirect is still remembered when the two attempts after it are made.
example :
    (after [.acquire .stdout true, .silenceUnless false false, .drop ⟨.stdout, 0⟩,
      .drop ⟨.stdout, 0⟩, .acquire .stdout false, .acquire .stdout true]).log
      =
    [(.stdout, .opened 0), (.stdout, .closed 0), (.stdout, .refused), (.stdout, .opened 1)] := by
  decide

end SilencerUse

end MathProgram

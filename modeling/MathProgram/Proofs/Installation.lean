import MathProgram.Logging.Subscriber

/-!
# Requests to install a subscriber

A process may ask for a subscriber many times, each time with another level, other
settings and other files that can be opened.  Every request is noted with the process
before it, its outcome and the process after it.

**One success.**  A request that finds a subscriber changes nothing.  One that finds none
settles in one of three ways, and only success leaves a subscriber behind.  So a failed
request is forgotten, apart from the file it tried to open.

**Results.**
* `InstallRequest.settles_perform`: the three ways.
* `installs_at_most_once`: any number of requests in a fresh process.
-/

namespace MathProgram

/-- A request for a subscriber: the level, the settings, and which files can be opened. -/
structure InstallRequest where
  level : Option String
  settings : LogSettings
  canOpen : String → Bool

/-- A request that was made: the process before it, the outcome, and the process after it. -/
structure InstallRecord where
  request : InstallRequest
  before : LoggingProcess
  outcome : Except LoggingError Bool
  after : LoggingProcess

section Requests

variable (readDirectives : String → Option EventFilter)

namespace InstallRequest

/-- The text of the filter that is asked for: the level, else the setting, else `off`. -/
def filterText
    (request : InstallRequest) :
    String :=
  match request.level, request.settings.trace with
  | some level, _ => level
  | none, some trace => trace
  | none, none => "off"

/-- The text of the format that is asked for: the setting, else `pretty`. -/
def formatText
    (request : InstallRequest) :
    String :=
  match request.settings.format with
  | some format => format
  | none => "pretty"

/-- The filter that is asked for is `off`, in any case, or can be read. -/
def FilterValid
    (request : InstallRequest) :
    Prop :=
  request.filterText.toLower = "off" ∨ (readDirectives request.filterText).isSome

/-- The format that is asked for is one of the two, in any case. -/
def FormatValid
    (request : InstallRequest) :
    Prop :=
  request.formatText.toLower = "pretty" ∨ request.formatText.toLower = "json"

/-- The log file that is asked for, if any, can be opened. -/
def FileOpens
    (request : InstallRequest) :
    Prop :=
  ∀ path, request.settings.file = some path → request.canOpen path

/-- Make a request in a process. -/
def perform
    (request : InstallRequest)
    (process : LoggingProcess) :
    Except LoggingError Bool × LoggingProcess :=
  (installLoggingBy (LoggingProcess.host readDirectives request.canOpen) request.settings
    request.level).run process

/-- The subscriber that is asked for, unless its filter or its format is invalid. -/
def subscriber
    (request : InstallRequest) :
    Except LoggingError Subscriber :=
  request.settings.subscriber readDirectives request.level

/-- How a request is settled that finds no subscriber. -/
inductive Settles
    (request : InstallRequest)
    (process : LoggingProcess) :
    Except LoggingError Bool → LoggingProcess → Prop
  | invalid
      {cause : LoggingError}
      (hinvalid : request.subscriber readDirectives = .error cause) :
      Settles request process (.error cause) process
  | unopenedFile
      {s : Subscriber}
      {path : String}
      (hvalid : request.subscriber readDirectives = .ok s)
      (hfile : s.file = some path)
      (hcloses : request.canOpen path = false) :
      Settles request process (.error (.unopenedFile path))
        { process with tried := process.tried ++ [path] }
  | installed
      {s : Subscriber}
      (hvalid : request.subscriber readDirectives = .ok s)
      (hopens : ∀ path, s.file = some path → request.canOpen path) :
      Settles request process (.ok true)
        { subscriber := some s, tried := process.tried ++ s.file.toList }

end InstallRequest

/-- The record of a request that is made in a process. -/
def InstallRequest.record
    (request : InstallRequest)
    (process : LoggingProcess) :
    InstallRecord where
  request := request
  before := process
  outcome := (request.perform readDirectives process).1
  after := (request.perform readDirectives process).2

/-- The records of requests that are made one after another. -/
def installHistory :
    LoggingProcess → List InstallRequest → List InstallRecord
  | _, [] => []
  | process, request :: requests =>
    request.record readDirectives process ::
      installHistory (request.record readDirectives process).after requests

namespace InstallRecord

/-- Whether the request installed a subscriber. -/
def succeeded
    (record : InstallRecord) :
    Bool :=
  match record.outcome with
  | .ok isNew => isNew
  | .error _ => false

/-- A request that finds a subscriber: it stays, and no file is opened. -/
structure FindsSubscriber
    (record : InstallRecord) :
    Prop where
  installed : record.before.subscriber.isSome
  outcome_eq : record.outcome = .ok false
  unchanged : record.after = record.before

/--
A request that finds no subscriber: an invalid filter is reported first, then an invalid
format, both before the file is tried; and only success leaves a subscriber behind.
-/
structure FindsNone
    (record : InstallRecord) :
    Prop where
  free : record.before.subscriber = none
  filterError :
    ¬ record.request.FilterValid readDirectives →
      record.outcome = .error (.invalidFilter record.request.filterText) ∧
        record.after = record.before
  formatError :
    record.request.FilterValid readDirectives → ¬ record.request.FormatValid →
      record.outcome = .error (.invalidFormat record.request.formatText) ∧
        record.after = record.before
  fileTried :
    record.request.FilterValid readDirectives → record.request.FormatValid →
      record.after.tried = record.before.tried ++ record.request.settings.file.toList
  succeeds_iff :
    record.outcome = .ok true ↔
      record.request.FilterValid readDirectives ∧ record.request.FormatValid ∧
        record.request.FileOpens
  installs_or_fails :
    (record.outcome = .ok true ∧ record.after.subscriber.isSome) ∨
      ((∃ cause, record.outcome = .error cause) ∧ record.after.subscriber = none)

end InstallRecord

end Requests

section OneRequest

variable {readDirectives : String → Option EventFilter} {request : InstallRequest}
  {process after : LoggingProcess} {outcome : Except LoggingError Bool}

namespace InstallRequest

theorem filterText_eq
    (request : InstallRequest) :
    request.settings.filterText request.level = request.filterText := by
  unfold LogSettings.filterText filterText
  cases request.level with
  | some level => rfl
  | none => cases request.settings.trace <;> rfl

theorem formatText_eq
    (request : InstallRequest) :
    request.settings.formatText = request.formatText := by
  unfold LogSettings.formatText formatText
  cases request.settings.format <;> rfl

/-- The filter is looked at before the format, and the file is the one in the settings. -/
theorem subscriber_cases
    (request : InstallRequest)
    (readDirectives : String → Option EventFilter) :
    (¬ request.FilterValid readDirectives ∧
        request.subscriber readDirectives = .error (.invalidFilter request.filterText)) ∨
      (request.FilterValid readDirectives ∧ ¬ request.FormatValid ∧
        request.subscriber readDirectives = .error (.invalidFormat request.formatText)) ∨
      (request.FilterValid readDirectives ∧ request.FormatValid ∧
        ∃ s, request.subscriber readDirectives = .ok s ∧ s.file = request.settings.file) := by
  unfold FilterValid FormatValid subscriber LogSettings.subscriber
  rw [← EventFilter.isSome_parse?_iff, ← LogFormat.isSome_parse?_iff, filterText_eq,
    formatText_eq]
  cases EventFilter.parse? readDirectives request.filterText with
  | none => simp
  | some filter =>
    cases LogFormat.parse? request.formatText with
    | none => simp
    | some format => simp

/-- An installed subscriber stays. -/
theorem perform_of_isSome
    (h : process.subscriber.isSome) :
    request.perform readDirectives process = (.ok false, process) := by
  simp only [perform, installLoggingBy, LoggingProcess.host, bind_pure_comp, StateT.run_bind,
    StateT.run_map, StateT.run_get, map_pure, pure_bind, h, if_true, StateT.run_pure]
  rfl

/-- The three ways in which a request is settled that finds no subscriber. -/
theorem settles_perform
    (hfree : process.subscriber = none) :
    request.Settles readDirectives process (request.perform readDirectives process).1
      (request.perform readDirectives process).2 := by
  obtain ⟨subscriber?, tried⟩ := process
  obtain rfl : subscriber? = none := hfree
  unfold perform installLoggingBy LoggingProcess.host
  cases hrequest : request.settings.subscriber readDirectives request.level with
  | error cause => exact .invalid hrequest
  | ok s =>
    dsimp only
    cases hfile : s.file with
    | none =>
      have hinstalled : request.Settles readDirectives ⟨none, tried⟩ (.ok true)
          ⟨some s, tried ++ s.file.toList⟩ :=
        .installed hrequest (by simp [hfile])
      rw [hfile, Option.toList_none, List.append_nil] at hinstalled
      exact hinstalled
    | some path =>
      cases hopen : request.canOpen path with
      | true =>
        have hinstalled : request.Settles readDirectives ⟨none, tried⟩ (.ok true)
            ⟨some s, tried ++ s.file.toList⟩ :=
          .installed hrequest (by simp [hfile, hopen])
        rw [hfile, Option.toList_some] at hinstalled
        simp only [hopen]
        exact hinstalled
      | false =>
        simp only [hopen]
        exact .unopenedFile hrequest hfile hopen

namespace Settles

/-- A request with an invalid filter or format has only that to report. -/
theorem of_invalid
    (h : request.Settles readDirectives process outcome after)
    {cause : LoggingError}
    (hinvalid : request.subscriber readDirectives = .error cause) :
    outcome = .error cause ∧ after = process := by
  cases h with
  | invalid hcause =>
    obtain rfl := Except.error.inj (hcause.symm.trans hinvalid)
    exact ⟨rfl, rfl⟩
  | unopenedFile hvalid _ _ => simp [hinvalid] at hvalid
  | installed hvalid _ => simp [hinvalid] at hvalid

/-- A request with a valid filter and format tries its file. -/
theorem tried_of_valid
    (h : request.Settles readDirectives process outcome after)
    {s : Subscriber}
    (hvalid : request.subscriber readDirectives = .ok s) :
    after.tried = process.tried ++ s.file.toList := by
  cases h with
  | invalid hcause => simp [hvalid] at hcause
  | unopenedFile hother hfile _ =>
    obtain rfl := Except.ok.inj (hother.symm.trans hvalid)
    simp [hfile]
  | installed hother _ =>
    obtain rfl := Except.ok.inj (hother.symm.trans hvalid)
    rfl

theorem outcome_iff_of_valid
    (h : request.Settles readDirectives process outcome after)
    {s : Subscriber}
    (hvalid : request.subscriber readDirectives = .ok s) :
    outcome = .ok true ↔ ∀ path, s.file = some path → request.canOpen path := by
  cases h with
  | invalid hcause => simp [hvalid] at hcause
  | unopenedFile hother hfile hcloses =>
    obtain rfl := Except.ok.inj (hother.symm.trans hvalid)
    simp [hfile, hcloses]
  | installed hother hopens =>
    obtain rfl := Except.ok.inj (hother.symm.trans hvalid)
    simpa using hopens

theorem succeeds_iff
    (h : request.Settles readDirectives process outcome after) :
    outcome = .ok true
      ↔
    request.FilterValid readDirectives ∧ request.FormatValid ∧ request.FileOpens := by
  rcases request.subscriber_cases readDirectives with
    ⟨hfilter, hinvalid⟩ | ⟨_, hformat, hinvalid⟩ | ⟨hfilter, hformat, s, hvalid, hfile⟩
  · simp [(h.of_invalid hinvalid).1, hfilter]
  · simp [(h.of_invalid hinvalid).1, hformat]
  · rw [h.outcome_iff_of_valid hvalid, hfile]
    simp [hfilter, hformat, FileOpens]

/-- Every request but a successful one leaves the process without a subscriber. -/
theorem installs_or_fails
    (h : request.Settles readDirectives process outcome after)
    (hfree : process.subscriber = none) :
    (outcome = .ok true ∧ after.subscriber.isSome) ∨
      ((∃ cause, outcome = .error cause) ∧ after.subscriber = none) := by
  cases h with
  | invalid _ => exact .inr ⟨⟨_, rfl⟩, hfree⟩
  | unopenedFile _ _ _ => exact .inr ⟨⟨_, rfl⟩, hfree⟩
  | installed _ _ => exact .inl ⟨rfl, rfl⟩

end Settles

end InstallRequest

namespace InstallRecord

theorem findsSubscriber_record
    (h : process.subscriber.isSome) :
    (request.record readDirectives process).FindsSubscriber where
  installed := h
  outcome_eq := congrArg Prod.fst (InstallRequest.perform_of_isSome h)
  unchanged := congrArg Prod.snd (InstallRequest.perform_of_isSome h)

theorem findsNone_record
    (hfree : process.subscriber = none) :
    (request.record readDirectives process).FindsNone readDirectives := by
  have hsettles : request.Settles readDirectives process
      (request.record readDirectives process).outcome
      (request.record readDirectives process).after :=
    InstallRequest.settles_perform hfree
  constructor
  case free => exact hfree
  case filterError =>
    intro hfilter
    rcases request.subscriber_cases readDirectives with ⟨_, hinvalid⟩ | ⟨hvalid, _⟩ | ⟨hvalid, _⟩
    · exact hsettles.of_invalid hinvalid
    · exact absurd hvalid hfilter
    · exact absurd hvalid hfilter
  case formatError =>
    intro hfilter hformat
    rcases request.subscriber_cases readDirectives with
      ⟨hnot, _⟩ | ⟨_, _, hinvalid⟩ | ⟨_, hvalid, _⟩
    · exact absurd hfilter hnot
    · exact hsettles.of_invalid hinvalid
    · exact absurd hvalid hformat
  case fileTried =>
    intro hfilter hformat
    rcases request.subscriber_cases readDirectives with
      ⟨hnot, _⟩ | ⟨_, hnot, _⟩ | ⟨_, _, s, hvalid, hfile⟩
    · exact absurd hfilter hnot
    · exact absurd hformat hnot
    · rw [hsettles.tried_of_valid hvalid, hfile]
      rfl
  case succeeds_iff => exact hsettles.succeeds_iff
  case installs_or_fails => exact hsettles.installs_or_fails hfree

theorem succeeded_iff
    {record : InstallRecord} :
    record.succeeded = true ↔ record.outcome = .ok true := by
  unfold succeeded
  cases record.outcome <;> simp

theorem FindsSubscriber.not_succeeded
    {record : InstallRecord}
    (h : record.FindsSubscriber) :
    ¬ record.succeeded = true := by
  rw [succeeded_iff, h.outcome_eq]
  simp

/-- A request that succeeds leaves a subscriber behind. -/
theorem isSome_after_of_outcome_eq
    (h : (request.record readDirectives process).outcome = .ok true) :
    (request.record readDirectives process).after.subscriber.isSome := by
  cases hfree : process.subscriber with
  | none =>
    rcases (findsNone_record hfree).installs_or_fails with ⟨_, hinstalled⟩ | ⟨⟨cause, herror⟩, _⟩
    · exact hinstalled
    · simp [herror] at h
  | some s =>
    have hinstalled : process.subscriber.isSome := by simp [hfree]
    simp [(findsSubscriber_record hinstalled).outcome_eq] at h

end InstallRecord

end OneRequest

section History

variable {readDirectives : String → Option EventFilter} {process : LoggingProcess}
  {requests : List InstallRequest}

namespace InstallRecord

theorem map_request_installHistory
    (process : LoggingProcess)
    (requests : List InstallRequest) :
    (installHistory readDirectives process requests).map request = requests := by
  induction requests generalizing process with
  | nil => rfl
  | cons request requests ih => exact congrArg (request :: ·) (ih _)

/-- Once a subscriber is installed, every request finds it. -/
theorem findsSubscriber_of_mem
    (h : process.subscriber.isSome)
    {record : InstallRecord}
    (hmem : record ∈ installHistory readDirectives process requests) :
    record.FindsSubscriber := by
  induction requests generalizing process with
  | nil => cases hmem
  | cons request requests ih =>
    have hfirst : (request.record readDirectives process).FindsSubscriber :=
      findsSubscriber_record h
    rcases List.mem_cons.mp hmem with rfl | hlater
    · exact hfirst
    · exact ih (hfirst.unchanged ▸ h) hlater

/-- Every request after a successful one finds a subscriber. -/
theorem pairwise_findsSubscriber
    (process : LoggingProcess)
    (requests : List InstallRequest) :
    (installHistory readDirectives process requests).Pairwise fun first later =>
      first.outcome = .ok true → later.FindsSubscriber := by
  induction requests generalizing process with
  | nil => exact List.Pairwise.nil
  | cons request requests ih =>
    refine List.Pairwise.cons ?_ (ih _)
    intro later hlater hok
    exact findsSubscriber_of_mem (isSome_after_of_outcome_eq hok) hlater

/-- At most one request succeeds. -/
theorem countP_succeeded_le_one
    (process : LoggingProcess)
    (requests : List InstallRequest) :
    (installHistory readDirectives process requests).countP succeeded ≤ 1 := by
  induction requests generalizing process with
  | nil => simp [installHistory]
  | cons request requests ih =>
    rw [installHistory]
    by_cases hsucceeded : (request.record readDirectives process).succeeded = true
    · have hinstalled := isSome_after_of_outcome_eq (succeeded_iff.mp hsucceeded)
      have hnone :
          (installHistory readDirectives (request.record readDirectives process).after
            requests).countP succeeded = 0 :=
        List.countP_eq_zero.mpr fun later hlater =>
          (findsSubscriber_of_mem hinstalled hlater).not_succeeded
      rw [List.countP_cons_of_pos hsucceeded]
      omega
    · rw [List.countP_cons_of_neg hsucceeded]
      exact ih _

/-- As long as no request succeeds, the next one finds no subscriber. -/
theorem findsNone_of_split
    (hfree : process.subscriber = none)
    {earlier later : List InstallRecord}
    {record : InstallRecord}
    (h : installHistory readDirectives process requests = earlier ++ record :: later)
    (hfailed : ∀ first ∈ earlier, first.outcome ≠ .ok true) :
    record.FindsNone readDirectives := by
  induction earlier generalizing process requests with
  | nil =>
    cases requests with
    | nil => cases h
    | cons request requests =>
      obtain ⟨rfl, -⟩ := List.cons.inj h
      exact findsNone_record hfree
  | cons first earlier ih =>
    cases requests with
    | nil => cases h
    | cons request requests =>
      obtain ⟨rfl, hrest⟩ := List.cons.inj h
      obtain ⟨hfirst, hearlier⟩ := List.forall_mem_cons.mp hfailed
      rcases (findsNone_record hfree).installs_or_fails with ⟨hok, _⟩ | ⟨_, hstill⟩
      · exact absurd hok hfirst
      · exact ih hstill hrest hearlier

end InstallRecord

/--
At most one request installs a subscriber, and every later one finds it and changes
nothing.  As long as none has succeeded, a request succeeds exactly if its filter and its
format are valid and its file can be opened.  Otherwise it reports its first fault, and
the process has no subscriber afterwards either.
-/
theorem installs_at_most_once
    (readDirectives : String → Option EventFilter)
    (requests : List InstallRequest) :
    let records := installHistory readDirectives .fresh requests
    records.map InstallRecord.request = requests ∧
      records.countP InstallRecord.succeeded ≤ 1 ∧
      (records.Pairwise fun first later =>
        first.outcome = .ok true → later.FindsSubscriber) ∧
      ∀ earlier record later, records = earlier ++ record :: later →
        (∀ first ∈ earlier, first.outcome ≠ .ok true) → record.FindsNone readDirectives :=
  ⟨InstallRecord.map_request_installHistory _ _, InstallRecord.countP_succeeded_le_one _ _,
    InstallRecord.pairwise_findsSubscriber _ _,
    fun _ _ _ hsplit hfailed => InstallRecord.findsNone_of_split rfl hsplit hfailed⟩

-- The file is tried once, by the one request that gets so far.
example :
    (installHistory EventFilter.directives? .fresh <|
        ["xml", "JSON", "xml"].map fun format =>
          { level := some "OFF"
            settings := { trace := none, format := some format, file := some "log" }
            canOpen := fun _ => true }).map
        (fun record => (record.outcome.toOption, record.after.tried))
      =
    [(none, []), (some true, ["log"]), (some false, ["log"])] := by
  decide +kernel

end History

end MathProgram

import MathProgram.Proofs.Checked.Fits

/-!
# Programs of calls

A program makes calls one after another, each on the values that the calls
before it handed out.  A call that is refused hands out nothing and the program
goes on; a call that panics ends the program.

**Results.**
* `perform_eq_panic_iff`: a program panics exactly at the first call that does.
* `getElem?_perform`: what the log of a program holds for one of its calls.
* `perform_raw`: a checked program runs like the program of the library.
* `checked_programs_keep_shape`: every value of a checked program is well-shaped,
  makers refuse data that does not fit, and only weighted sums panic.
-/

namespace MathProgram

section Perform

variable {α V W : Type}

/-- What a call came back with, if it did not panic. -/
abbrev Outcome (α V : Type) :=
  Except ExprError (Answer α V)

/-- The values that a call handed out; a refused one hands out none. -/
def Outcome.handedOut : Outcome α V → List V
  | .ok a => a.handedOut
  | .error _ => []

/-- The values that the calls of a log handed out. -/
def obtained
    (log : List (Outcome α V)) :
    List V :=
  log.flatMap Outcome.handedOut

/-- Log what a call came back with, unless it panicked. -/
def settle : Checked (Answer α V) → Except Panic (Outcome α V)
  | .ok a => .ok (.ok a)
  | .error (.refused cause) => .ok (.error cause)
  | .error (.panic p) => .error p

/-- Make the calls of a program, starting with some values. -/
def perform
    (answer : List V → Instr α → Checked (Answer α V))
    (values : List V) :
    List (Instr α) → Except Panic (List (Outcome α V))
  | [] => .ok []
  | instr :: program =>
    match settle (answer values instr) with
    | .error p => .error p
    | .ok outcome =>
      (perform answer (values ++ Outcome.handedOut outcome) program).map (outcome :: ·)

theorem settle_eq_ok_iff
    {x : Checked (Answer α V)}
    {outcome : Outcome α V} :
    settle x = .ok outcome ↔ x = Checked.ofResult outcome := by
  rcases x with (p | cause) | a <;> cases outcome <;>
    simp [settle, Checked.ofResult_ok, Checked.ofResult_error]

theorem settle_eq_error_iff
    {x : Checked (Answer α V)}
    {p : Panic} :
    settle x = .error p ↔ x = .error (.panic p) := by
  rcases x with (q | cause) | a <;> simp [settle]

section Log

variable {answer : List V → Instr α → Checked (Answer α V)} {values : List V}

theorem perform_cons_eq_ok_iff
    {instr : Instr α}
    {program : List (Instr α)}
    {log : List (Outcome α V)} :
    perform answer values (instr :: program) = .ok log
      ↔
    ∃ outcome rest,
      answer values instr = Checked.ofResult outcome ∧
        perform answer (values ++ Outcome.handedOut outcome) program = .ok rest ∧
          log = outcome :: rest := by
  simp only [← settle_eq_ok_iff, perform]
  cases settle (answer values instr) with
  | error p => simp
  | ok outcome =>
    simp only [Except.ok.injEq, exists_and_left, exists_eq_left', map_eq_ok_iff]
    exact exists_congr fun rest => and_congr_right fun _ => eq_comm

theorem perform_cons_eq_error_iff
    {instr : Instr α}
    {program : List (Instr α)}
    {p : Panic} :
    perform answer values (instr :: program) = .error p
      ↔
    answer values instr = .error (.panic p) ∨
      ∃ outcome,
        answer values instr = Checked.ofResult outcome ∧
          perform answer (values ++ Outcome.handedOut outcome) program = .error p := by
  simp only [← settle_eq_ok_iff, ← settle_eq_error_iff, perform]
  cases settle (answer values instr) with
  | error q => simp
  | ok outcome =>
    simp only [Except.ok.injEq, exists_eq_left', reduceCtorEq, false_or, map_eq_error_iff]

/-- A program panics exactly at the first call that does. -/
theorem perform_eq_panic_iff
    {program : List (Instr α)}
    {p : Panic} :
    perform answer values program = .error p
      ↔
    ∃ before instr after log,
      program = before ++ instr :: after ∧
        perform answer values before = .ok log ∧
          answer (values ++ obtained log) instr = .error (.panic p) := by
  constructor
  · intro h
    induction program generalizing values with
    | nil => cases h
    | cons instr program ih =>
      obtain hpanic | ⟨outcome, hanswer, hrest⟩ := perform_cons_eq_error_iff.mp h
      · refine ⟨[], instr, program, [], rfl, rfl, ?_⟩
        simpa [obtained] using hpanic
      · obtain ⟨before, bad, after, log, rfl, hbefore, hbad⟩ := ih hrest
        refine ⟨instr :: before, bad, after, outcome :: log, rfl, ?_, ?_⟩
        · exact perform_cons_eq_ok_iff.mpr ⟨outcome, log, hanswer, hbefore, rfl⟩
        · simpa [obtained] using hbad
  · rintro ⟨before, instr, after, log, rfl, hbefore, hbad⟩
    induction before generalizing values log with
    | nil =>
      cases hbefore
      refine perform_cons_eq_error_iff.mpr (.inl ?_)
      simpa [obtained] using hbad
    | cons first before ih =>
      obtain ⟨outcome, rest, hanswer, hrest, rfl⟩ := perform_cons_eq_ok_iff.mp hbefore
      refine perform_cons_eq_error_iff.mpr (.inr ⟨outcome, hanswer, ih rest hrest ?_⟩)
      simpa [obtained] using hbad

/-- The log of a program holds, for every call, what it was answered. -/
theorem getElem?_perform
    {program : List (Instr α)}
    {log : List (Outcome α V)}
    (h : perform answer values program = .ok log)
    {i : Nat}
    {instr : Instr α}
    (hi : program[i]? = some instr) :
    ∃ outcome,
      log[i]? = some outcome ∧
        answer (values ++ obtained (log.take i)) instr = Checked.ofResult outcome := by
  induction program generalizing values log i with
  | nil => cases hi
  | cons first program ih =>
    obtain ⟨outcome, rest, hanswer, hrest, rfl⟩ := perform_cons_eq_ok_iff.mp h
    cases i with
    | zero =>
      cases hi
      refine ⟨outcome, rfl, ?_⟩
      simpa [obtained] using hanswer
    | succ i =>
      obtain ⟨found, hfound, hlater⟩ := ih hrest hi
      refine ⟨found, hfound, ?_⟩
      simpa [obtained] using hlater

end Log

end Perform

section Raw

variable {α : Type}

/-- The raw form of what a call came back with. -/
def Outcome.raw
    (outcome : Outcome α (Value α)) :
    Outcome α (RawValue α) :=
  outcome.map (Answer.map Value.raw)

theorem Outcome.handedOut_raw
    (outcome : Outcome α (Value α)) :
    Outcome.handedOut (Outcome.raw outcome) = (Outcome.handedOut outcome).map Value.raw := by
  cases outcome with
  | error cause => rfl
  | ok a => exact a.handedOut_map Value.raw

theorem obtained_map_raw
    (log : List (Outcome α (Value α))) :
    obtained (log.map Outcome.raw) = (obtained log).map Value.raw := by
  unfold obtained
  rw [List.flatMap_map, List.map_flatMap]
  exact congrArg log.flatMap (funext Outcome.handedOut_raw)

theorem settle_raw
    (x : Checked (Answer α (Value α))) :
    settle (x.map (Answer.map Value.raw)) = (settle x).map Outcome.raw := by
  rcases x with (p | cause) | a <;> rfl

variable [Zero α] [One α] [Add α] [Mul α] [Neg α]

/-- A checked program runs like the program of the library, on the raw forms of its values. -/
theorem perform_raw
    (values : List (Value α))
    (program : List (Instr α)) :
    perform Instr.rawAnswer (values.map Value.raw) program
      =
    (perform Instr.answer values program).map (List.map Outcome.raw) := by
  induction program generalizing values with
  | nil =>
    rfl
  | cons instr program ih =>
    simp only [perform, instr.answer_raw, settle_raw]
    cases settle (instr.answer values) with
    | error p => rfl
    | ok outcome =>
      simp only [Except.map, Outcome.handedOut_raw, ← List.map_append, ih]
      cases perform Instr.answer (values ++ Outcome.handedOut outcome) program <;> rfl

/-- Make the calls of a program of the library, starting with no values. -/
def runProgram
    (program : List (Instr α)) :
    Except Panic (List (Outcome α (Value α))) :=
  perform Instr.answer [] program

/-- Make the calls of a program with checked operations, starting with no values. -/
def runChecked
    (program : List (Instr α)) :
    Except Panic (List (Outcome α (RawValue α))) :=
  perform Instr.rawAnswer [] program

theorem runChecked_eq
    (program : List (Instr α)) :
    runChecked program = (runProgram program).map (List.map Outcome.raw) := by
  exact perform_raw [] program

theorem runChecked_eq_ok_iff
    {program : List (Instr α)}
    {log : List (Outcome α (RawValue α))} :
    runChecked program = .ok log
      ↔
    ∃ given, runProgram program = .ok given ∧ log = given.map Outcome.raw := by
  rw [runChecked_eq, map_eq_ok_iff]
  exact exists_congr fun given => and_congr_right fun _ => eq_comm

theorem runChecked_eq_error_iff
    {program : List (Instr α)}
    {p : Panic} :
    runChecked program = .error p ↔ runProgram program = .error p := by
  rw [runChecked_eq, map_eq_error_iff]

/-- The values that a checked program obtains are well-shaped. -/
theorem wellShaped_of_mem_obtained
    {program : List (Instr α)}
    {log : List (Outcome α (RawValue α))}
    (h : runChecked program = .ok log)
    {v : RawValue α}
    (hv : v ∈ obtained log) :
    v.WellShaped := by
  obtain ⟨given, -, rfl⟩ := runChecked_eq_ok_iff.mp h
  rw [obtained_map_raw] at hv
  obtain ⟨w, -, rfl⟩ := List.mem_map.mp hv
  exact w.wellShaped_raw

/-- A maker that did not panic gave a value of data that fits, or refused data that does not. -/
theorem Maker.outcome_cases
    {m : Maker α}
    {values : List (Value α)}
    {outcome : Outcome α (Value α)}
    (h : Instr.answer values (.make m) = Checked.ofResult outcome) :
    (m.Fits ∧ ∃ v, outcome = .ok (.one v)) ∨ (¬ m.Fits ∧ ∃ cause, outcome = .error cause) := by
  obtain ⟨hfits, v, hv⟩ | ⟨hfits, cause, hv⟩ | ⟨p, -, hv⟩ := m.value_cases
  all_goals
    rw [Instr.answer, hv] at h
    cases outcome <;> cases h
  · exact .inl ⟨hfits, v, rfl⟩
  · exact .inr ⟨hfits, cause, rfl⟩

/-- A checked program logs a value for a maker with data that fits, and a refusal otherwise. -/
theorem getElem?_runChecked_make
    {program : List (Instr α)}
    {log : List (Outcome α (RawValue α))}
    (h : runChecked program = .ok log)
    {i : Nat}
    {m : Maker α}
    (hi : program[i]? = some (.make m)) :
    (m.Fits ∧ ∃ v, log[i]? = some (.ok (.one v))) ∨
      (¬ m.Fits ∧ ∃ cause, log[i]? = some (.error cause)) := by
  obtain ⟨given, hgiven, rfl⟩ := runChecked_eq_ok_iff.mp h
  obtain ⟨outcome, houtcome, hanswer⟩ := getElem?_perform hgiven hi
  rw [List.getElem?_map, houtcome]
  obtain ⟨hfits, v, rfl⟩ | ⟨hfits, cause, rfl⟩ := Maker.outcome_cases hanswer
  · exact .inl ⟨hfits, v.raw, rfl⟩
  · exact .inr ⟨hfits, cause, rfl⟩

/-- A checked program panics exactly at a weighted sum of lists of different lengths. -/
theorem runChecked_eq_panic_iff
    {program : List (Instr α)}
    {p : Panic} :
    runChecked program = .error p
      ↔
    ∃ before instr after log,
      program = before ++ instr :: after ∧
        runChecked before = .ok log ∧ instr.Mismatched p := by
  rw [runChecked_eq_error_iff, runProgram, perform_eq_panic_iff]
  simp only [Instr.answer_eq_panic_iff]
  constructor
  · rintro ⟨before, instr, after, given, hprogram, hgiven, hpanic⟩
    have hlog := runChecked_eq_ok_iff.mpr ⟨given, hgiven, rfl⟩
    exact ⟨before, instr, after, _, hprogram, hlog, hpanic⟩
  · rintro ⟨before, instr, after, log, hprogram, hlog, hpanic⟩
    obtain ⟨given, hgiven, -⟩ := runChecked_eq_ok_iff.mp hlog
    exact ⟨before, instr, after, given, hprogram, hgiven, hpanic⟩

/--
Checked programs run like the programs of the library.  Every value they obtain
is well-shaped, a maker gives a value exactly on data that fits, and the only
call that panics is a weighted sum of lists of different lengths.
-/
theorem checked_programs_keep_shape
    (program : List (Instr α)) :
    runChecked program = (runProgram program).map (List.map Outcome.raw) ∧
      (∀ log,
        runChecked program = .ok log →
          (∀ v ∈ obtained log, v.WellShaped) ∧
            ∀ (i : Nat) (m : Maker α), program[i]? = some (.make m) →
              (m.Fits ∧ ∃ v, log[i]? = some (.ok (.one v))) ∨
                (¬ m.Fits ∧ ∃ cause, log[i]? = some (.error cause))) ∧
        ∀ p,
          runChecked program = .error p
            ↔
          ∃ before instr after log,
            program = before ++ instr :: after ∧
              runChecked before = .ok log ∧ instr.Mismatched p := by
  refine ⟨runChecked_eq program, ?_, fun p => runChecked_eq_panic_iff⟩
  intro log hlog
  refine ⟨fun v => wellShaped_of_mem_obtained hlog, ?_⟩
  intro i m hi
  exact getElem?_runChecked_make hlog hi

/-- Two makers, the first with a coefficient too many, and a sum of what the second gives. -/
def refusedThenAdded : List (Instr Float) :=
  [.make (.affine [] [1] 0), .make (.affineOfConstant 2), .binary .add 0 0]

/-- The program goes on after a refusal, and panics if a mismatched weighted sum is added. -/
theorem checked_programs_keep_shape_refusedThenAdded :
    (∃ log, runChecked refusedThenAdded = .ok log ∧
      (obtained log).length = 2 ∧ (∀ v ∈ obtained log, v.WellShaped) ∧
        ∃ cause, log[0]? = some (.error cause)) ∧
      runChecked (refusedThenAdded ++ [.make (.dot [] [1])])
        = .error (.dot { vars := 0, coeffs := 1 }) := by
  have hlog : ∃ log, runChecked refusedThenAdded = .ok log ∧ (obtained log).length = 2 :=
    ⟨_, rfl, rfl⟩
  obtain ⟨log, hrun, hlength⟩ := hlog
  obtain ⟨-, hkeeps, -⟩ := checked_programs_keep_shape refusedThenAdded
  obtain ⟨hshape, hmakers⟩ := hkeeps log hrun
  refine ⟨⟨log, hrun, hlength, hshape, ?_⟩, ?_⟩
  · obtain ⟨hfits, -⟩ | ⟨-, hrefused⟩ := hmakers 0 (.affine [] [1] 0) rfl
    · exact absurd hfits Nat.one_ne_zero
    · exact hrefused
  · obtain ⟨-, -, hpanics⟩ :=
      checked_programs_keep_shape (refusedThenAdded ++ [.make (.dot [] [1])])
    refine (hpanics _).mpr ⟨refusedThenAdded, .make (.dot [] [1]), [], log, rfl, hrun, ?_⟩
    exact ⟨[], [1], rfl, by decide, rfl⟩

end Raw

end MathProgram

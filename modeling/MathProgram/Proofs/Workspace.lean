import MathProgram.Proofs.StoreHistory

/-!
# Programs with several models

A program makes new models, copies models that it has, and gives them commands.  Which
models it then has follows from the steps it took, and so do the commands that each model
was given: a copy starts out with the commands of the model that was copied.

**Results.**
* `models_eq_map_histories`: every model is what its commands make of the empty one.
* `models_append_getElem?`: later steps change a model by the commands to it alone.
* `models_record_their_commands`: what the models of a program store and give back.
-/

namespace MathProgram
namespace Workspace

section Steps

/-- A step of a program with several models, which it knows by their numbers. -/
inductive Step (α : Type) where
  | create
  | copy (k : Nat)
  | command (k : Nat) (c : Model.Command α)

namespace Step

/-- What a step makes of a list that has one entry for each model. -/
def apply
    {σ : Type}
    (fresh : σ)
    (tell : σ → Model.Command α → σ)
    (entries : List σ) :
    Step α → List σ
  | create => entries ++ [fresh]
  | copy k => entries ++ entries[k]?.toList
  | command k c => entries.modify k (tell · c)

/-- The command of a step to one of the models. -/
def commandTo?
    (k : Nat) :
    Step α → Option (Model.Command α)
  | command j c => if j = k then some c else none
  | _ => none

end Step

/-- The models after the steps of a program. -/
def models
    (steps : List (Step α)) :
    List (Model α) :=
  steps.foldl (Step.apply .empty fun m c => (c.perform m).2) []

/-- The commands that each model has been given, those to what it is a copy of included. -/
def histories
    (steps : List (Step α)) :
    List (List (Model.Command α)) :=
  steps.foldl (Step.apply [] fun history c => history ++ [c]) []

section Entries

variable {σ τ : Type} {fresh : σ} {tell : σ → Model.Command α → σ}

/-- A step commutes with a map of entries that commands commute with. -/
theorem Step.map_apply
    {f : σ → τ}
    {tellImage : τ → Model.Command α → τ}
    (hf : ∀ s c, f (tell s c) = tellImage (f s) c)
    (entries : List σ)
    (step : Step α) :
    (step.apply fresh tell entries).map f = step.apply (f fresh) tellImage (entries.map f) := by
  cases step with
  | create =>
    exact List.map_append
  | copy k =>
    simp only [apply, List.map_append, List.getElem?_map]
    cases entries[k]? <;> rfl
  | command k c =>
    apply List.ext_getElem?
    intro i
    simp only [apply, List.getElem?_map, List.getElem?_modify]
    cases entries[i]? with
    | none => rfl
    | some s =>
      by_cases hi : k = i
      · simp only [if_pos hi]
        exact congrArg some (hf s c)
      · simp only [if_neg hi]
        rfl

theorem map_foldl_apply
    {f : σ → τ}
    {tellImage : τ → Model.Command α → τ}
    (hf : ∀ s c, f (tell s c) = tellImage (f s) c)
    (steps : List (Step α))
    (entries : List σ) :
    (steps.foldl (Step.apply fresh tell) entries).map f
      =
    steps.foldl (Step.apply (f fresh) tellImage) (entries.map f) := by
  induction steps generalizing entries with
  | nil => rfl
  | cons step steps ih =>
    rw [List.foldl_cons, List.foldl_cons, ih, step.map_apply hf]

/-- A step changes an entry by the command to it, if there is one. -/
theorem Step.apply_getElem?
    {entries : List σ}
    {k : Nat}
    {s : σ}
    (h : entries[k]? = some s)
    (step : Step α) :
    (step.apply fresh tell entries)[k]? = some ((step.commandTo? k).toList.foldl tell s) := by
  have hk : k < entries.length := (List.getElem?_eq_some_iff.mp h).1
  cases step with
  | create => exact (List.getElem?_append_left hk).trans h
  | copy j => exact (List.getElem?_append_left hk).trans h
  | command j c =>
    simp only [apply, commandTo?, List.getElem?_modify, h]
    by_cases hj : j = k
    · simp only [if_pos hj]
      rfl
    · simp only [if_neg hj]
      rfl

theorem foldl_apply_getElem?
    {entries : List σ}
    {k : Nat}
    {s : σ}
    (h : entries[k]? = some s)
    (steps : List (Step α)) :
    (steps.foldl (Step.apply fresh tell) entries)[k]?
      =
    some ((steps.filterMap (Step.commandTo? k)).foldl tell s) := by
  induction steps generalizing entries s with
  | nil => exact h
  | cons step steps ih =>
    rw [List.foldl_cons, ih (step.apply_getElem? h), List.filterMap_cons]
    cases step.commandTo? k <;> rfl

end Entries

/-- Every model is what its commands make of the empty one. -/
theorem models_eq_map_histories
    (steps : List (Step α)) :
    models steps = (histories steps).map Model.empty.follow := by
  apply Eq.symm
  apply map_foldl_apply
  intro history c
  exact List.foldl_append

/-- Later steps change a model by the commands to it alone. -/
theorem models_append_getElem?
    {steps : List (Step α)}
    {k : Nat}
    {m : Model α}
    (h : (models steps)[k]? = some m)
    (later : List (Step α)) :
    (models (steps ++ later))[k]? = some (m.follow (later.filterMap (Step.commandTo? k))) := by
  unfold models
  rw [List.foldl_append]
  exact foldl_apply_getElem? h later

theorem models_command_getElem?
    {steps : List (Step α)}
    {k : Nat}
    {m : Model α}
    (h : (models steps)[k]? = some m)
    (c : Model.Command α) :
    (models (steps ++ [.command k c]))[k]? = some (c.perform m).2 := by
  have hcommand : (Step.command k c).commandTo? k = some c := if_pos rfl
  rw [models_append_getElem? h, List.filterMap_cons_some hcommand]
  rfl

theorem exists_history
    {steps : List (Step α)}
    {k : Nat}
    {m : Model α}
    (h : (models steps)[k]? = some m) :
    ∃ history, (histories steps)[k]? = some history ∧ m.Records history := by
  rw [models_eq_map_histories, List.getElem?_map] at h
  obtain ⟨history, hhistory, rfl⟩ := Option.map_eq_some_iff.mp h
  exact ⟨history, hhistory, Model.records_empty.follow history⟩

theorem filterMap_commandTo?_eq_nil
    {k : Nat}
    {steps : List (Step α)}
    (h : ∀ c, .command k c ∉ steps) :
    steps.filterMap (Step.commandTo? k) = [] := by
  apply List.filterMap_eq_nil_iff.mpr
  intro step hstep
  cases step with
  | command j c =>
    apply if_neg
    rintro rfl
    exact h c hstep
  | _ => rfl

/--
The models of a program after any steps.  A model stores what its commands have said.
What a command gives back is known from the sizes of the model, and it keeps its meaning
whatever comes later.  Nothing that is stored changes or moves, and a model to which no
command is given stays as it is.
-/
theorem models_record_their_commands
    (steps : List (Step α)) :
    (∀ (k : Nat) (m : Model α), (models steps)[k]? = some m →
      ∃ history, (histories steps)[k]? = some history ∧ m.Records history)
      ∧
    (∀ (k : Nat) (m : Model α) (c : Model.Command α), (models steps)[k]? = some m →
      (c.perform m).1 = c.receipt m.vars.length m.constraints.length ∧
      (∀ cause, c = .addComparison (.error cause) → c.perform m = (.position none, m)) ∧
      ∀ later, ∃ after, (models (steps ++ .command k c :: later))[k]? = some after ∧
        c.Names (c.perform m).1 after)
      ∧
    ∀ (k : Nat) (m : Model α) (later : List (Step α)), (models steps)[k]? = some m →
      ∃ after, (models (steps ++ later))[k]? = some after ∧
        m.IsPartOf after ∧
        ((∀ c, .command k c ∉ later) → after = m) := by
  refine ⟨fun k m => exists_history, ?_, ?_⟩
  · intro k m c hm
    refine ⟨congrArg Prod.fst (c.perform_eq m), ?_, ?_⟩
    · rintro cause rfl
      rfl
    · intro later
      obtain ⟨history, -, hrecords⟩ := exists_history hm
      have hlater := models_append_getElem? (models_command_getElem? hm c) later
      rw [← List.append_cons] at hlater
      exact ⟨_, hlater, (hrecords.names_perform c).mono (Model.isPartOf_follow _ _)⟩
  · intro k m later hm
    refine ⟨_, models_append_getElem? hm later, m.isPartOf_follow _, ?_⟩
    intro hlater
    rw [filterMap_commandTo?_eq_nil hlater]
    rfl

/-- Two binary variables, and a copy of the model that has them. -/
def pairAndCopy : List (Step Int) :=
  [.create, .command 0 (.addVector .binary 2), .copy 0]

/-- A third variable gets the next id and no bounds, and the copy stays without it. -/
theorem models_record_their_commands_pairAndCopy :
    ∃ m copied : Model Int,
      (models pairAndCopy)[0]? = some m ∧
      (models pairAndCopy)[1]? = some copied ∧
      copied.Records [.addVector .binary 2] ∧
      copied.vars
        =
      [{ id := 0, lower := 0, upper := 1, kind := .binary },
        { id := 1, lower := 0, upper := 1, kind := .binary }] ∧
      m.addComparison (.error (.missingVariable 7)) = (none, m) ∧
      ∃ after : Model Int,
        (models (pairAndCopy ++ [.command 0 (.addVariable .free)]))[0]? = some after ∧
        after.vars[2]?
          =
        some { id := 2, lower := -1 / 0, upper := 1 / 0, kind := .continuous } ∧
        (models (pairAndCopy ++ [.command 0 (.addVariable .free)]))[1]? = some copied := by
  obtain ⟨hrecords, hcommand, hlater⟩ := models_record_their_commands pairAndCopy
  obtain ⟨history, hhistory, hcopied⟩ := hrecords 1 _ rfl
  cases hhistory
  obtain ⟨-, hdropped, -⟩ := hcommand 0 _ (.addComparison (.error (.missingVariable 7))) rfl
  obtain ⟨-, -, hnamed⟩ := hcommand 0 _ (.addVariable .free) rfl
  obtain ⟨after, hafter, hnames⟩ := hnamed []
  obtain ⟨still, hstill, -, hsame⟩ := hlater 1 _ [.command 0 (.addVariable .free)] rfl
  have hother : ∀ c, (.command 1 c : Step Int) ∉ [.command 0 (.addVariable .free)] := by
    simp
  rw [hsame hother] at hstill
  have hthird := hnames.vars (VariableDomain.free.handle 2) (List.mem_singleton_self _)
  have hnone := congrArg (fun p => (p.1.position?, p.2)) (hdropped _ rfl)
  exact ⟨_, _, rfl, rfl, hcopied, hcopied.vars, hnone, after, hafter, hthird, hstill⟩

end Steps

end Workspace
end MathProgram

import MathProgram.Model

/-!
# What a model stores

A model is told what to store by commands: to add variables one by one, in vectors or in
grids, to add constraints or the outcomes of comparisons, and to replace its objective and
its settings.  All that a model stores can be read off the commands it was given.

**Variables.**  Every command asks for a list of domains, which is empty unless it adds
variables.  The variables of a model have the bounds and the kinds of the domains asked
for and are numbered in order; a vector or a grid is a stretch of them.

**Receipts.**  What a command gives back depends on the numbers of variables and of
constraints before it, and on nothing else in the model.

**Results.**
* `Command.perform_eq`: what a command gives back and what it does to a model.
* `isPartOf_follow`: commands move nothing that is stored.
* `Records.follow`: a model stores what its commands have said.
* `Records.names_perform`: what a command gives back names what it has stored.
-/

namespace MathProgram

section Numbered

namespace VariableDomain

/-- Variables with consecutive ids that have the bounds and the kinds of given domains. -/
def numbered
    (first : Nat)
    (domains : List VariableDomain) :
    List Variable :=
  domains.mapIdx fun i domain =>
    { id := first + i, lower := domain.lower, upper := domain.upper, kind := domain.kind }

/-- Variables with consecutive ids that have the bounds and the kind of one domain. -/
def stretch
    (domain : VariableDomain)
    (first n : Nat) :
    List Variable :=
  (List.range n).map fun i =>
    { id := first + i, lower := domain.lower, upper := domain.upper, kind := domain.kind }

/-- The stretches of a grid, row after row. -/
def grid
    (domain : VariableDomain)
    (first rows cols : Nat) :
    List (List Variable) :=
  (List.range rows).map fun i => domain.stretch (first + i * cols) cols

theorem length_numbered
    (first : Nat)
    (domains : List VariableDomain) :
    (numbered first domains).length = domains.length :=
  List.length_mapIdx

theorem numbered_append
    (first : Nat)
    (domains others : List VariableDomain) :
    numbered first (domains ++ others)
      =
    numbered first domains ++ numbered (first + domains.length) others := by
  have hplace (i : Nat) : first + (i + domains.length) = first + domains.length + i := by
    omega
  simp only [numbered, List.mapIdx_append, hplace]

/-- The ids of numbered variables tell their places. -/
theorem id_of_numbered_getElem?
    {domains : List VariableDomain}
    {i : Nat}
    {v : Variable}
    (h : (numbered 0 domains)[i]? = some v) :
    v.id = i := by
  unfold numbered at h
  rw [List.getElem?_mapIdx] at h
  obtain ⟨domain, -, rfl⟩ := Option.map_eq_some_iff.mp h
  exact Nat.zero_add i

variable (domain : VariableDomain) (first : Nat)

/-- A handle has the bounds and the kind of its domain. -/
theorem handle_eq
    (id : Nat) :
    domain.handle id
      =
    { id := id, lower := domain.lower, upper := domain.upper, kind := domain.kind } := by
  rfl

@[simp] theorem length_stretch
    (n : Nat) :
    (domain.stretch first n).length = n := by
  simp [stretch]

theorem stretch_succ
    (n : Nat) :
    domain.stretch first (n + 1) = domain.handle first :: domain.stretch (first + 1) n := by
  simp only [stretch, ← handle_eq]
  rw [List.range_succ_eq_map, List.map_cons, List.map_map]
  refine congrArg (_ :: ·) (List.map_congr_left fun i _ => congrArg domain.handle ?_)
  exact (Nat.add_right_comm first 1 i).symm

theorem grid_succ
    (rows cols : Nat) :
    domain.grid first (rows + 1) cols
      =
    domain.stretch first cols :: domain.grid (first + cols) rows cols := by
  unfold grid
  rw [List.range_succ_eq_map, List.map_cons, List.map_map, Nat.zero_mul]
  refine congrArg (_ :: ·) (List.map_congr_left fun i _ => congrArg (domain.stretch · cols) ?_)
  rw [Nat.succ_mul, Nat.add_assoc, Nat.add_comm cols]

/-- A stretch is what a repeated domain is numbered to. -/
theorem numbered_replicate
    (n : Nat) :
    numbered first (List.replicate n domain) = domain.stretch first n := by
  apply List.ext_getElem?
  intro i
  unfold numbered stretch
  rw [List.getElem?_mapIdx, List.getElem?_map, List.getElem?_replicate]
  rcases Nat.lt_or_ge i n with hi | hi
  · rw [if_pos hi, List.getElem?_range hi]
    rfl
  · rw [if_neg (Nat.not_lt.mpr hi), List.getElem?_eq_none (by simpa using hi)]
    rfl

/-- The rows of a grid are one stretch. -/
theorem flatten_grid
    (rows cols : Nat) :
    (domain.grid first rows cols).flatten = domain.stretch first (rows * cols) := by
  induction rows generalizing first with
  | zero =>
    rw [Nat.zero_mul]
    rfl
  | succ rows ih =>
    rw [grid_succ, List.flatten_cons, ih, Nat.succ_mul, Nat.add_comm (rows * cols),
      ← numbered_replicate, ← numbered_replicate, ← numbered_replicate,
      ← List.replicate_append_replicate, numbered_append, List.length_replicate]

end VariableDomain

end Numbered

namespace Model

section Commands

variable {α : Type}

/-- What a model can be told. -/
inductive Command (α : Type) where
  | addVariable (domain : VariableDomain)
  | addVector (domain : VariableDomain) (n : Nat)
  | addGrid (domain : VariableDomain) (rows cols : Nat)
  | addConstraint (c : Constraint α)
  | addComparison (outcome : Except ExprError (Constraint α))
  | setObjective (o : Objective α)
  | setShowLog (flag : Bool)
  | setTimeLimit (limit : Duration)

/-- What a model gives back. -/
inductive Receipt where
  | single (v : Variable)
  | vector (vars : List Variable)
  | grid (rows : List (List Variable))
  | position (i : Option Nat)
  | nothing

namespace Receipt

/-- The variables that were handed out. -/
def vars : Receipt → List Variable
  | single v => [v]
  | vector vars => vars
  | grid rows => rows.flatten
  | position _ => []
  | nothing => []

/-- The place of the constraint that was stored, if one was. -/
def position? : Receipt → Option Nat
  | position i => i
  | _ => none

end Receipt

namespace Command

/-- Carry out a command. -/
def perform
    (m : Model α) :
    Command α → Receipt × Model α
  | addVariable domain =>
    let added := m.addVariable domain
    (.single added.1, added.2)
  | addVector domain n =>
    let added := m.addVector domain n
    (.vector added.1, added.2)
  | addGrid domain rows cols =>
    let added := m.addGrid domain rows cols
    (.grid added.1, added.2)
  | addConstraint c =>
    let added := m.addConstraint c
    (.position (some added.1), added.2)
  | addComparison outcome =>
    let added := m.addComparison outcome
    (.position added.1, added.2)
  | setObjective o => (.nothing, m.setObjective o)
  | setShowLog flag => (.nothing, m.setShowLog flag)
  | setTimeLimit limit => (.nothing, m.setTimeLimit limit)

/-- The domains for which a command asks, in the order of the variables. -/
def domains : Command α → List VariableDomain
  | addVariable domain => [domain]
  | addVector domain n => List.replicate n domain
  | addGrid domain rows cols => List.replicate (rows * cols) domain
  | _ => []

/-- The constraint that a command brings, unless its comparison failed. -/
def built? : Command α → Option (Constraint α)
  | addConstraint c => some c
  | addComparison (.ok c) => some c
  | _ => none

/-- The objective that a command sets. -/
def objective? : Command α → Option (Objective α)
  | setObjective o => some o
  | _ => none

/-- The choice of a command whether the solver shows its log. -/
def showLog? : Command α → Option Bool
  | setShowLog flag => some flag
  | _ => none

/-- The time limit that a command sets. -/
def timeLimit? : Command α → Option Duration
  | setTimeLimit limit => some limit
  | _ => none

/-- What a command gives back by a model with so many variables and constraints. -/
def receipt
    (size count : Nat) :
    Command α → Receipt
  | addVariable domain =>
    .single
      { id := size, lower := domain.lower, upper := domain.upper, kind := domain.kind }
  | addVector domain n => .vector (domain.stretch size n)
  | addGrid domain rows cols => .grid (domain.grid size rows cols)
  | addConstraint _ => .position (some count)
  | addComparison (.ok _) => .position (some count)
  | addComparison (.error _) => .position none
  | setObjective _ => .nothing
  | setShowLog _ => .nothing
  | setTimeLimit _ => .nothing

/-- The variables handed out are the domains asked for, numbered on. -/
theorem vars_receipt
    (c : Command α)
    (size count : Nat) :
    (c.receipt size count).vars = VariableDomain.numbered size c.domains := by
  cases c with
  | addVariable domain => rfl
  | addVector domain n => exact (domain.numbered_replicate size n).symm
  | addGrid domain rows cols =>
    exact (domain.flatten_grid size rows cols).trans
      (domain.numbered_replicate size (rows * cols)).symm
  | addComparison outcome => cases outcome <;> rfl
  | _ => rfl

/-- A place is given back for a constraint that was built, and for nothing else. -/
theorem position?_receipt
    (c : Command α)
    (size count : Nat) :
    (c.receipt size count).position? = c.built?.map fun _ => count := by
  cases c with
  | addComparison outcome => cases outcome <;> rfl
  | _ => rfl

end Command

section Blocks

variable (m : Model α) (domain : VariableDomain)

theorem addVector_eq
    (n : Nat) :
    m.addVector domain n
      =
    (domain.stretch m.vars.length n,
      { m with vars := m.vars ++ domain.stretch m.vars.length n }) := by
  induction n generalizing m with
  | zero =>
    simp [addVector, VariableDomain.stretch]
  | succ n ih =>
    simp [addVector, ih, addVariable, VariableDomain.stretch_succ]

theorem addGrid_eq
    (rows cols : Nat) :
    m.addGrid domain rows cols
      =
    (domain.grid m.vars.length rows cols,
      { m with vars := m.vars ++ (domain.grid m.vars.length rows cols).flatten }) := by
  induction rows generalizing m with
  | zero =>
    simp [addGrid, VariableDomain.grid]
  | succ rows ih =>
    simp [addGrid, ih, addVector_eq, VariableDomain.grid_succ]

end Blocks

/-- What a command gives back and what becomes of the model. -/
theorem Command.perform_eq
    (m : Model α)
    (c : Command α) :
    c.perform m
      =
    (c.receipt m.vars.length m.constraints.length,
      { vars := m.vars ++ VariableDomain.numbered m.vars.length c.domains
        constraints := m.constraints ++ c.built?.toList
        objective := c.objective?.or m.objective
        showLog := c.showLog?.getD m.showLog
        timeLimit := c.timeLimit?.getD m.timeLimit }) := by
  have hempty : m.vars ++ VariableDomain.numbered m.vars.length [] = m.vars :=
    List.append_nil _
  have hnone : m.constraints ++ [] = m.constraints := List.append_nil _
  cases c with
  | addVector domain n =>
    simp only [perform, addVector_eq, receipt, domains, VariableDomain.numbered_replicate, built?,
      Option.toList_none, hnone]
    rfl
  | addGrid domain rows cols =>
    simp only [perform, addGrid_eq, receipt, domains, VariableDomain.numbered_replicate,
      VariableDomain.flatten_grid, built?, Option.toList_none, hnone]
    rfl
  | addComparison outcome =>
    cases outcome with
    | ok c =>
      simp only [perform, receipt, domains, hempty]
      rfl
    | error cause =>
      simp only [perform, receipt, domains, hempty, built?, Option.toList_none, hnone]
      rfl
  | _ =>
    simp only [perform, receipt, domains, hempty, built?, Option.toList_none, hnone]
    rfl

end Commands

section Places

variable {α : Type}

/-- The variables and the constraints of one model keep their places in another. -/
structure IsPartOf
    (m after : Model α) :
    Prop where
  vars : m.vars <+: after.vars
  constraints : m.constraints <+: after.constraints

theorem IsPartOf.trans
    {m between after : Model α}
    (h : m.IsPartOf between)
    (h' : between.IsPartOf after) :
    m.IsPartOf after where
  vars := h.vars.trans h'.vars
  constraints := h.constraints.trans h'.constraints

/-- A receipt tells where a model has what a command stored. -/
structure Command.Names
    (c : Command α)
    (receipt : Receipt)
    (m : Model α) :
    Prop where
  vars : ∀ v ∈ receipt.vars, m.vars[v.id]? = some v
  constraint : ∀ i : Nat, receipt.position? = some i →
    ∃ built, c.built? = some built ∧ m.constraints[i]? = some built

/-- A list that goes on has the same entries at the same places. -/
theorem getElem?_of_isPrefix
    {β : Type}
    {bs longer : List β}
    (h : bs <+: longer)
    {i : Nat}
    {b : β}
    (hi : bs[i]? = some b) :
    longer[i]? = some b := by
  obtain ⟨rest, rfl⟩ := h
  exact (List.getElem?_append_left (List.getElem?_eq_some_iff.mp hi).1).trans hi

theorem Command.Names.mono
    {c : Command α}
    {receipt : Receipt}
    {m after : Model α}
    (h : c.Names receipt m)
    (hpart : m.IsPartOf after) :
    c.Names receipt after where
  vars := fun v hv => getElem?_of_isPrefix hpart.vars (h.vars v hv)
  constraint := fun i hi => by
    obtain ⟨built, hbuilt, hplace⟩ := h.constraint i hi
    exact ⟨built, hbuilt, getElem?_of_isPrefix hpart.constraints hplace⟩

/-- A command moves nothing that is stored. -/
theorem isPartOf_perform
    (m : Model α)
    (c : Command α) :
    m.IsPartOf (c.perform m).2 := by
  rw [c.perform_eq]
  exact ⟨List.prefix_append .., List.prefix_append ..⟩

end Places

section Histories

variable {α : Type}

/-- The model after one command after another. -/
def follow
    (m : Model α)
    (commands : List (Command α)) :
    Model α :=
  commands.foldl (fun m c => (c.perform m).2) m

theorem isPartOf_follow
    (m : Model α)
    (commands : List (Command α)) :
    m.IsPartOf (m.follow commands) := by
  induction commands generalizing m with
  | nil => exact ⟨List.prefix_rfl, List.prefix_rfl⟩
  | cons c commands ih => exact (m.isPartOf_perform c).trans (ih (c.perform m).2)

/--
A model stores what commands from the first one on have said: all variables and all
constraints in order, and the last objective and the last settings.
-/
structure Records
    (m : Model α)
    (history : List (Command α)) :
    Prop where
  vars : m.vars = VariableDomain.numbered 0 (history.flatMap Command.domains)
  ids : ∀ (i : Nat) (v : Variable), m.vars[i]? = some v → v.id = i
  constraints : m.constraints = history.filterMap Command.built?
  objective : m.objective = (history.filterMap Command.objective?).getLast?
  showLog : m.showLog = (history.filterMap Command.showLog?).getLast?.getD false
  timeLimit : m.timeLimit = (history.filterMap Command.timeLimit?).getLast?.getD .zero

theorem records_empty :
    (empty : Model α).Records [] where
  vars := rfl
  ids := fun i v h => by cases h
  constraints := rfl
  objective := rfl
  showLog := rfl
  timeLimit := rfl

/-- The last answer to one more question. -/
theorem getLast?_filterMap_concat
    {β γ : Type}
    (f : β → Option γ)
    (bs : List β)
    (b : β) :
    ((bs ++ [b]).filterMap f).getLast? = (f b).or (bs.filterMap f).getLast? := by
  rw [List.filterMap_append, List.getLast?_append]
  cases h : f b <;> simp [h]

namespace Records

variable {m : Model α} {history : List (Command α)}

theorem perform
    (h : m.Records history)
    (c : Command α) :
    (c.perform m).2.Records (history ++ [c]) := by
  have hvars : (c.perform m).2.vars
      = VariableDomain.numbered 0 ((history ++ [c]).flatMap Command.domains) := by
    have hlength : m.vars.length = (history.flatMap Command.domains).length := by
      rw [h.vars, VariableDomain.length_numbered]
    rw [List.flatMap_append, VariableDomain.numbered_append, ← h.vars, Nat.zero_add, ← hlength,
      List.flatMap_singleton, c.perform_eq]
  constructor
  case vars =>
    exact hvars
  case ids =>
    intro i v hv
    rw [hvars] at hv
    exact VariableDomain.id_of_numbered_getElem? hv
  case constraints =>
    rw [c.perform_eq, List.filterMap_append, ← h.constraints]
    cases hc : c.built? <;> simp [hc]
  case objective =>
    rw [getLast?_filterMap_concat, ← h.objective, c.perform_eq]
  case showLog =>
    rw [getLast?_filterMap_concat, c.perform_eq]
    simp only [h.showLog]
    cases c.showLog? <;> rfl
  case timeLimit =>
    rw [getLast?_filterMap_concat, c.perform_eq]
    simp only [h.timeLimit]
    cases c.timeLimit? <;> rfl

/-- A model stores what its commands have said. -/
theorem follow
    (h : m.Records history)
    (commands : List (Command α)) :
    (m.follow commands).Records (history ++ commands) := by
  induction commands generalizing m history with
  | nil => rwa [List.append_nil]
  | cons c commands ih =>
    rw [List.append_cons]
    exact ih (h.perform c)

/-- A variable of a model stands at the place that is its id. -/
theorem vars_getElem?_id
    (h : m.Records history)
    {v : Variable}
    (hv : v ∈ m.vars) :
    m.vars[v.id]? = some v := by
  obtain ⟨i, hi⟩ := List.mem_iff_getElem?.mp hv
  rwa [h.ids i v hi]

/-- What a command gives back names what it has stored. -/
theorem names_perform
    (h : m.Records history)
    (c : Command α) :
    c.Names (c.perform m).1 (c.perform m).2 := by
  constructor
  case vars =>
    intro v hv
    refine (h.perform c).vars_getElem?_id ?_
    rw [c.perform_eq, c.vars_receipt] at hv
    rw [c.perform_eq]
    exact List.mem_append_right _ hv
  case constraint =>
    intro i hi
    rw [c.perform_eq, c.position?_receipt] at hi
    obtain ⟨built, hbuilt, rfl⟩ := Option.map_eq_some_iff.mp hi
    refine ⟨built, hbuilt, ?_⟩
    rw [c.perform_eq]
    simp [hbuilt]

end Records

end Histories

end Model

end MathProgram

import MathProgram.Variable

/-!
# Solutions

A solution carries the value of every variable the solver reported, the value of
the objective and the status with which the solver ended.

A valuation lists ids and values in increasing order of ids.  Inserting a value
for an id replaces an earlier one.
-/

namespace MathProgram

/-- How a solver ended. -/
inductive Status where
  | loaded
  | optimal
  | infeasible
  | infeasibleOrUnbounded
  | unbounded
  | cutoff
  | iterationLimit
  | nodeLimit
  | timeLimit
  | solutionLimit
  | interrupted
  | numeric
  | suboptimal
  | inProgress
  | userObjectiveLimit
  | workLimit
  deriving DecidableEq, Repr

namespace Status

/-- Every status, in the order of the codes. -/
def all : List Status :=
  [loaded, optimal, infeasible, infeasibleOrUnbounded, unbounded, cutoff, iterationLimit,
    nodeLimit, timeLimit, solutionLimit, interrupted, numeric, suboptimal, inProgress,
    userObjectiveLimit, workLimit]

/-- The number of a status; codes are consecutive and start at one. -/
def code : Status → Nat
  | loaded => 1
  | optimal => 2
  | infeasible => 3
  | infeasibleOrUnbounded => 4
  | unbounded => 5
  | cutoff => 6
  | iterationLimit => 7
  | nodeLimit => 8
  | timeLimit => 9
  | solutionLimit => 10
  | interrupted => 11
  | numeric => 12
  | suboptimal => 13
  | inProgress => 14
  | userObjectiveLimit => 15
  | workLimit => 16

/-- The name of a status. -/
def name : Status → String
  | loaded => "Loaded"
  | optimal => "Optimal"
  | infeasible => "Infeasible"
  | infeasibleOrUnbounded => "InfeasibleOrUnbounded"
  | unbounded => "Unbounded"
  | cutoff => "Cutoff"
  | iterationLimit => "IterationLimit"
  | nodeLimit => "NodeLimit"
  | timeLimit => "TimeLimit"
  | solutionLimit => "SolutionLimit"
  | interrupted => "Interrupted"
  | numeric => "Numeric"
  | suboptimal => "Suboptimal"
  | inProgress => "InProgress"
  | userObjectiveLimit => "UserObjectiveLimit"
  | workLimit => "WorkLimit"

/-- The status with a code. -/
def ofCode?
    (code : Int) :
    Option Status :=
  all.find? fun s => (s.code : Int) == code

/-- The status with a name. -/
def ofName?
    (name : String) :
    Option Status :=
  all.find? fun s => s.name == name

/-- The text of a status: its name, then its code in brackets. -/
def text
    (s : Status) :
    String :=
  s.name ++ " (" ++ toString s.code ++ ")"

end Status

/-- Values by id, in increasing order of ids. -/
structure Valuation (α : Type) where
  entries : List (Nat × α)
  increasing : entries.Pairwise fun p q => p.1 < q.1

namespace Valuation

section Valuation

variable {α : Type}

/-- The valuation of no variable. -/
def empty : Valuation α where
  entries := []
  increasing := .nil

/-- Put an entry at its place in a list that is ordered by ids. -/
def insertEntry
    (id : Nat)
    (value : α) :
    List (Nat × α) → List (Nat × α)
  | [] => [(id, value)]
  | p :: rest =>
    if id < p.1 then
      (id, value) :: p :: rest
    else if id = p.1 then
      (id, value) :: rest
    else
      p :: insertEntry id value rest

/-- An inserted entry is the only new one. -/
theorem mem_insertEntry
    {id : Nat}
    {value : α}
    {entries : List (Nat × α)}
    {p : Nat × α}
    (hp : p ∈ insertEntry id value entries) :
    p = (id, value) ∨ p ∈ entries := by
  induction entries with
  | nil =>
    exact .inl (by simpa [insertEntry] using hp)
  | cons q rest ih =>
    unfold insertEntry at hp
    split at hp
    · simpa using hp
    · split at hp
      · rcases List.mem_cons.mp hp with h | h
        · exact .inl h
        · exact .inr (List.mem_cons_of_mem _ h)
      · rcases List.mem_cons.mp hp with h | h
        · exact .inr (h ▸ List.mem_cons_self ..)
        · exact (ih h).imp_right (List.mem_cons_of_mem _)

/-- Insertion keeps the order of ids. -/
theorem pairwise_insertEntry
    (id : Nat)
    (value : α)
    {entries : List (Nat × α)}
    (h : entries.Pairwise fun p q => p.1 < q.1) :
    (insertEntry id value entries).Pairwise fun p q => p.1 < q.1 := by
  induction entries with
  | nil =>
    simp [insertEntry]
  | cons q rest ih =>
    obtain ⟨hq, hrest⟩ := List.pairwise_cons.mp h
    unfold insertEntry
    split
    next hlt =>
      refine List.pairwise_cons.mpr ⟨?_, h⟩
      intro p hp
      rcases List.mem_cons.mp hp with rfl | hp
      · exact hlt
      · exact Nat.lt_trans hlt (hq p hp)
    next hge =>
      split
      next heq =>
        exact List.pairwise_cons.mpr ⟨fun p hp => heq ▸ hq p hp, hrest⟩
      next hne =>
        refine List.pairwise_cons.mpr ⟨?_, ih hrest⟩
        intro p hp
        rcases mem_insertEntry hp with rfl | hp
        · show q.1 < id
          omega
        · exact hq p hp

/-- Give a value to an id, replacing an earlier one. -/
def insert
    (values : Valuation α)
    (id : Nat)
    (value : α) :
    Valuation α where
  entries := insertEntry id value values.entries
  increasing := pairwise_insertEntry id value values.increasing

/-- The valuation with the given entries, the last one of an id winning. -/
def ofList
    (entries : List (Nat × α)) :
    Valuation α :=
  entries.foldl (fun values p => values.insert p.1 p.2) empty

/-- The value of an id. -/
def get?
    (values : Valuation α)
    (id : Nat) :
    Option α :=
  (values.entries.find? fun p => p.1 == id).map Prod.snd

/-- In an ordered list of entries an inserted value replaces the one of its id and no other. -/
theorem find?_insertEntry
    (id other : Nat)
    (value : α)
    {entries : List (Nat × α)}
    (h : entries.Pairwise fun p q => p.1 < q.1) :
    (insertEntry id value entries).find? (fun p => p.1 == other)
      =
    if other = id then some (id, value) else entries.find? fun p => p.1 == other := by
  induction entries with
  | nil =>
    by_cases hid : other = id
    · simp [insertEntry, hid]
    · simp [insertEntry, hid, Ne.symm hid]
  | cons q rest ih =>
    obtain ⟨_, hrest⟩ := List.pairwise_cons.mp h
    unfold insertEntry
    split
    next hlt =>
      by_cases hid : other = id
      · simp [hid]
      · simp [hid, Ne.symm hid]
    next hge =>
      split
      next heq =>
        by_cases hid : other = id
        · simp [hid]
        · have hq : q.1 ≠ other := fun hq => hid (hq ▸ heq.symm)
          simp [hid, Ne.symm hid, hq]
      next hne =>
        by_cases hq : q.1 = other
        · have hid : other ≠ id := fun hid => hne (hid ▸ hq.symm)
          simp [hq, hid]
        · simp [hq, ih hrest]

/-- An inserted value is the value of its id, and the other values stay. -/
@[simp] theorem get?_insert
    (values : Valuation α)
    (id other : Nat)
    (value : α) :
    (values.insert id value).get? other
      =
    if other = id then some value else values.get? other := by
  unfold get? insert
  rw [find?_insertEntry id other value values.increasing]
  split <;> simp

end Valuation

end Valuation

/-- What a solver found. -/
structure Solution (α : Type) where
  values : Valuation α
  objective : α
  status : Status

namespace Solution

/-- The value of a variable. -/
def value?
    {α : Type}
    (s : Solution α)
    (v : Variable) :
    Option α :=
  s.values.get? v.id

/-- The least value that no longer counts as zero for a variable with whole values. -/
def oneThreshold : Float :=
  0.01

/-- Whether a variable with whole values was set to one; continuous variables never are. -/
def isOne
    (s : Solution Float)
    (v : Variable) :
    Bool :=
  v.kind.isWhole && (s.value? v).any (fun x => oneThreshold < x)

end Solution

end MathProgram

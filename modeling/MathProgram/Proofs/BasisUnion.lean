import MathProgram.Proofs.SlotMap

/-!
# The basis of a sum

The union of two bases is assembled in one pass, variable by variable.  What
comes out is the concatenation of both without its repeats: the first handle of
every id stays, and every later one is dropped.

**The basis of a sum.**  Operands over one sequence of ids are added over the
basis of the left one, which may repeat ids.  All others are added over their
union, which does not.  `merge` is that choice.

**Results.**
* `slotIds_unique`: what dropping repeats leaves are the distinct ids, in order.
* `fst_fold`, `union_basis`: both one-pass constructions drop repeats.
* `nodup_merge`: only operands that share their sequence of ids are added over a
  basis that repeats one.
* `merge_assoc`: the basis of a sum of three, handles included, does not depend
  on how the operands are grouped.
-/

namespace MathProgram

namespace Basis

section SlotIds

@[simp] theorem slotIds_nil :
    slotIds [] = [] := by
  rfl

@[simp] theorem slotIds_cons
    (v : Variable)
    (basis : Basis) :
    slotIds (v :: basis) = v.id :: slotIds basis := by
  rfl

@[simp] theorem slotIds_append
    (a b : Basis) :
    slotIds (a ++ b) = slotIds a ++ slotIds b := by
  exact List.map_append

@[simp] theorem length_slotIds
    (basis : Basis) :
    basis.slotIds.length = basis.length := by
  exact List.length_map _

theorem mem_ids_iff
    {basis : Basis}
    {id : Nat} :
    id ∈ basis.ids ↔ id ∈ basis.slotIds := by
  exact List.mem_eraseDups

theorem contains_iff
    {basis : Basis}
    {id : Nat} :
    basis.contains id = true ↔ id ∈ basis.slotIds := by
  simp [contains, slotIds]

/-- An id has a slot exactly when some slot holds it. -/
theorem exists_position?_iff
    {basis : Basis}
    {id : Nat} :
    (∃ slot, basis.position? id = some slot) ↔ id ∈ basis.slotIds := by
  rw [← Option.isSome_iff_exists, position?, List.findIdx?_isSome]
  exact contains_iff

theorem position?_eq_none_iff
    {basis : Basis}
    {id : Nat} :
    basis.position? id = none ↔ id ∉ basis.slotIds := by
  rw [← exists_position?_iff, ← Option.isSome_iff_exists, Option.not_isSome_iff_eq_none]

/-- The variables of a basis whose ids another one lacks. -/
def lacking
    (basis known : Basis) :
    Basis :=
  basis.filter fun v => !known.contains v.id

/-- What is lacking depends only on the ids that are known. -/
theorem lacking_congr
    (basis : Basis)
    {known other : Basis}
    (h : ∀ id, id ∈ known.slotIds ↔ id ∈ other.slotIds) :
    basis.lacking known = basis.lacking other := by
  unfold lacking
  apply List.filter_congr
  intro v _
  have hsame : known.contains v.id = other.contains v.id := by
    rw [Bool.eq_iff_iff, contains_iff, contains_iff]
    exact h v.id
  rw [hsame]

theorem lacking_eq_nil
    {basis known : Basis}
    (h : ∀ id ∈ basis.slotIds, id ∈ known.slotIds) :
    basis.lacking known = [] := by
  apply List.filter_eq_nil_iff.mpr
  intro v hv
  have hknown : known.contains v.id = true :=
    contains_iff.mpr (h v.id (List.mem_map_of_mem hv))
  simp [hknown]

/-- Knowing one more variable drops the variables with its id. -/
theorem lacking_cons
    (basis known : Basis)
    (v : Variable) :
    basis.lacking (v :: known) = (basis.lacking known).filter fun w => w.id != v.id := by
  unfold lacking
  rw [List.filter_filter]
  apply List.filter_congr
  intro w _
  have hsplit : contains (v :: known) w.id = (v.id == w.id || known.contains w.id) := by
    rfl
  have hflip : (v.id == w.id) = (w.id == v.id) := BEq.comm
  rw [hsplit, hflip, Bool.not_or]
  rfl

end SlotIds

section Unique

@[simp] theorem unique_nil :
    unique [] = [] := by
  rfl

theorem unique_cons
    (v : Variable)
    (rest : Basis) :
    unique (v :: rest) = v :: (unique rest).filter fun w => w.id != v.id := by
  rfl

@[simp] theorem mem_slotIds_unique
    {basis : Basis}
    {id : Nat} :
    id ∈ basis.unique.slotIds ↔ id ∈ basis.slotIds := by
  induction basis with
  | nil =>
    simp
  | cons v rest ih =>
    have hfilter : id ∈ slotIds ((unique rest).filter fun w => w.id != v.id)
        ↔ id ∈ slotIds rest ∧ id ≠ v.id := by
      rw [← ih]
      simp only [slotIds, List.mem_map, List.mem_filter, bne_iff_ne]
      constructor
      · rintro ⟨w, ⟨hw, hne⟩, rfl⟩
        exact ⟨⟨w, hw, rfl⟩, hne⟩
      · rintro ⟨⟨w, hw, rfl⟩, hne⟩
        exact ⟨w, ⟨hw, hne⟩, rfl⟩
    rw [unique_cons, slotIds_cons, slotIds_cons, List.mem_cons, List.mem_cons, hfilter]
    by_cases h : id = v.id <;> simp [h]

theorem nodup_unique
    (basis : Basis) :
    basis.unique.slotIds.Nodup := by
  induction basis with
  | nil =>
    exact List.nodup_nil
  | cons v rest ih =>
    rw [unique_cons, slotIds_cons, List.nodup_cons]
    constructor
    · intro h
      obtain ⟨w, hw, hid⟩ := List.mem_map.mp h
      have hne := (List.mem_filter.mp hw).2
      simp [hid] at hne
    · exact ih.sublist (List.filter_sublist.map Variable.id)

/-- A basis without repeats keeps all of its handles. -/
theorem unique_of_nodup
    {basis : Basis}
    (h : basis.slotIds.Nodup) :
    basis.unique = basis := by
  induction basis with
  | nil =>
    rfl
  | cons v rest ih =>
    obtain ⟨hnew, hrest⟩ := List.nodup_cons.mp h
    rw [unique_cons, ih hrest]
    have hkept : rest.filter (fun w => w.id != v.id) = rest := by
      apply List.filter_eq_self.mpr
      intro w hw
      have hne : w.id ≠ v.id := by
        intro heq
        exact hnew (heq ▸ List.mem_map_of_mem hw)
      simp [hne]
    rw [hkept]

/-- Dropping repeats from two bases keeps the first one's handles and what only the second has. -/
theorem unique_append
    (a b : Basis) :
    unique (a ++ b) = unique a ++ (unique b).lacking a := by
  induction a with
  | nil =>
    have hall : (unique b).lacking [] = unique b := by
      apply List.filter_eq_self.mpr
      intro w _
      rfl
    rw [hall]
    rfl
  | cons v a ih =>
    rw [List.cons_append, unique_cons, unique_cons, ih, List.filter_append, lacking_cons]
    rfl

theorem unique_append_of_subset
    {a b : Basis}
    (h : ∀ id ∈ b.slotIds, id ∈ a.slotIds) :
    unique (a ++ b) = unique a := by
  have hnone : (unique b).lacking a = [] := by
    apply lacking_eq_nil
    intro id hid
    exact h id (mem_slotIds_unique.mp hid)
  rw [unique_append, hnone, List.append_nil]

@[simp] theorem unique_unique_append
    (a b : Basis) :
    unique (unique a ++ b) = unique (a ++ b) := by
  have hknown : (unique b).lacking (unique a) = (unique b).lacking a :=
    lacking_congr _ fun _ => mem_slotIds_unique
  rw [unique_append, unique_append, unique_of_nodup (nodup_unique a), hknown]

@[simp] theorem unique_append_unique
    (a b : Basis) :
    unique (a ++ unique b) = unique (a ++ b) := by
  rw [unique_append, unique_append, unique_of_nodup (nodup_unique b)]

theorem slotIds_filter
    (basis : Basis)
    (id : Nat) :
    slotIds (basis.filter fun v => v.id != id) = basis.slotIds.filter (· != id) := by
  rw [slotIds, slotIds, List.filter_map]
  rfl

/-- Repeats can be dropped before or after one id is. -/
theorem unique_filter
    (basis : Basis)
    (id : Nat) :
    unique (basis.filter fun v => v.id != id) = (unique basis).filter fun v => v.id != id := by
  induction basis with
  | nil =>
    rfl
  | cons v rest ih =>
    by_cases h : v.id = id
    · simp [unique_cons, h, ih, List.filter_filter]
    · simp [unique_cons, h, ih, List.filter_filter, Bool.and_comm]

/-- Dropping repeated slots leaves the distinct ids in order of first occurrence. -/
theorem slotIds_unique
    (basis : Basis) :
    basis.unique.slotIds = basis.ids := by
  match basis with
  | [] =>
    rfl
  | v :: rest =>
    -- Later slots with the id of the head are dropped first, which leaves fewer slots.
    have hrest := slotIds_unique (rest.filter fun w => w.id != v.id)
    rw [unique_filter, ids, slotIds_filter rest] at hrest
    rw [unique_cons, slotIds_cons, hrest, ids, slotIds_cons, List.eraseDups_cons]
    rfl
termination_by basis.length
decreasing_by
  exact Nat.lt_succ_of_le (List.length_filter_le ..)

theorem nodup_ids
    (basis : Basis) :
    basis.ids.Nodup := by
  rw [← slotIds_unique]
  exact nodup_unique basis

end Unique

section Union

/-- Placing variables one after another adds those that are new, without their repeats. -/
theorem fst_placeAll
    (basis : Basis)
    (vs : List Variable) :
    (basis.placeAll vs).1 = basis ++ (unique vs).lacking basis := by
  induction vs generalizing basis with
  | nil =>
    simp [placeAll, lacking]
  | cons v vs ih =>
    rw [placeAll, ih]
    cases hpos : basis.position? v.id with
    | some slot =>
      have hmem : v.id ∈ basis.slotIds :=
        exists_position?_iff.mp ⟨slot, hpos⟩
      have hknown : basis.contains v.id = true :=
        contains_iff.mpr hmem
      have hplace : (basis.place v).1 = basis := by
        simp [place, hpos]
      -- The handles that the head would drop are known to the basis already.
      have hdrop : lacking ((unique vs).filter fun w => w.id != v.id) basis
          = (unique vs).lacking basis := by
        unfold lacking
        rw [List.filter_filter]
        apply List.filter_congr
        intro w _
        by_cases hw : w.id = v.id
        · simp [hw, hknown]
        · simp [hw]
      have hhead : lacking (unique (v :: vs)) basis = (unique vs).lacking basis := by
        rw [unique_cons, ← hdrop]
        simp [lacking, hknown]
      rw [hplace, hhead]
    | none =>
      have hunknown : basis.contains v.id = false := by
        rw [← Bool.not_eq_true, contains_iff]
        exact position?_eq_none_iff.mp hpos
      have hplace : (basis.place v).1 = basis ++ [v] := by
        simp [place, hpos]
      have hgrown : (unique vs).lacking (basis ++ [v]) = (unique vs).lacking (v :: basis) :=
        lacking_congr _ fun id => by simp [or_comm]
      have hhead : lacking (unique (v :: vs)) basis = v :: (unique vs).lacking (v :: basis) := by
        rw [lacking_cons, unique_cons]
        simp only [lacking, List.filter_cons, hunknown, Bool.not_false, ↓reduceIte]
        rw [List.filter_filter, List.filter_filter]
        simp only [Bool.and_comm]
      rw [hplace, hgrown, hhead, List.append_assoc]
      rfl

theorem fst_fold
    (basis : Basis) :
    basis.fold.1 = basis.unique := by
  rw [fold, fst_placeAll]
  simp [lacking, contains]

theorem slotIds_fold
    (basis : Basis) :
    basis.fold.1.slotIds = basis.ids := by
  rw [fst_fold, slotIds_unique]

/-- The union of two bases is their concatenation without its repeats. -/
theorem union_basis
    (a b : Basis) :
    (a.union b).basis = unique (a ++ b) := by
  have hleft : (placeAll [] a).1 = unique a := fst_fold a
  have hknown : (unique b).lacking (unique a) = (unique b).lacking a :=
    lacking_congr _ fun _ => mem_slotIds_unique
  rw [unique_append, ← hknown, ← hleft]
  exact fst_placeAll (placeAll [] a).1 b

end Union

section Merge

/-- The basis of a sum: that of the left operand if both list the same ids, else their union. -/
def merge
    (a b : Basis) :
    Basis :=
  if a.slotIds = b.slotIds then a else (a.union b).basis

theorem merge_of_slotIds_eq
    {a b : Basis}
    (h : a.slotIds = b.slotIds) :
    a.merge b = a :=
  if_pos h

theorem merge_of_slotIds_ne
    {a b : Basis}
    (h : a.slotIds ≠ b.slotIds) :
    a.merge b = unique (a ++ b) := by
  rw [merge, if_neg h, union_basis]

/-- Unless both operands share a sequence of ids that repeats one, repeats are dropped. -/
theorem merge_eq_unique
    {a b : Basis}
    (h : a.slotIds = b.slotIds → a.slotIds.Nodup) :
    a.merge b = unique (a ++ b) := by
  by_cases hsame : a.slotIds = b.slotIds
  · have hsubset : unique (a ++ b) = unique a :=
      unique_append_of_subset fun id hid => hsame ▸ hid
    rw [merge_of_slotIds_eq hsame, hsubset, unique_of_nodup (h hsame)]
  · exact merge_of_slotIds_ne hsame

/-- Beside an empty basis only the repeats are dropped. -/
theorem merge_nil
    (basis : Basis) :
    basis.merge [] = basis.unique := by
  have hempty : basis.slotIds = slotIds [] → basis.slotIds.Nodup := by
    intro h
    rw [h]
    exact List.nodup_nil
  rw [merge_eq_unique hempty, List.append_nil]

theorem mem_slotIds_merge
    {a b : Basis}
    {id : Nat} :
    id ∈ (a.merge b).slotIds ↔ id ∈ a.slotIds ∨ id ∈ b.slotIds := by
  by_cases hsame : a.slotIds = b.slotIds
  · rw [merge_of_slotIds_eq hsame, ← hsame, or_self]
  · rw [merge_of_slotIds_ne hsame, mem_slotIds_unique, slotIds_append, List.mem_append]

theorem nodup_merge
    {a b : Basis}
    (h : a.slotIds ≠ b.slotIds) :
    (a.merge b).slotIds.Nodup := by
  rw [merge_of_slotIds_ne h]
  exact nodup_unique _

/-- The basis of a sum repeats an id exactly when both operands share a sequence that does. -/
theorem not_nodup_merge_iff
    {a b : Basis} :
    ¬ (a.merge b).slotIds.Nodup ↔ a.slotIds = b.slotIds ∧ ¬ a.slotIds.Nodup := by
  by_cases hsame : a.slotIds = b.slotIds
  · simp [merge_of_slotIds_eq hsame, hsame]
  · simp [nodup_merge hsame, hsame]

/-- Unless all three operands list the same ids, their sum has one slot per id. -/
theorem nodup_merge_merge
    {a b c : Basis}
    (h : ¬ (a.slotIds = b.slotIds ∧ b.slotIds = c.slotIds)) :
    ((a.merge b).merge c).slotIds.Nodup := by
  by_cases hab : a.slotIds = b.slotIds
  · have hac : a.slotIds ≠ c.slotIds := by
      intro hac
      exact h ⟨hab, hab.symm.trans hac⟩
    rw [merge_of_slotIds_eq hab]
    exact nodup_merge hac
  · rw [merge_eq_unique fun _ => nodup_merge hab]
    exact nodup_unique _

/--
Grouping does not change the basis of a sum.  Either all operands share their
ids and the first basis stays, or both groupings drop the repeats of all three.
-/
theorem merge_assoc
    (a b c : Basis) :
    (a.merge b).merge c = a.merge (b.merge c) := by
  -- A basis that agrees with one without repeats has none either.
  have hdistinct (d e : Basis) : d.slotIds = (unique e).slotIds → d.slotIds.Nodup := by
    intro h
    rw [h]
    exact nodup_unique e
  by_cases hab : a.slotIds = b.slotIds
  · by_cases hbc : b.slotIds = c.slotIds
    · rw [merge_of_slotIds_eq hab, merge_of_slotIds_eq hbc, merge_of_slotIds_eq hab,
        merge_of_slotIds_eq (hab.trans hbc)]
    · have hac : a.slotIds ≠ c.slotIds := hab ▸ hbc
      have hsubset : unique (a ++ b) = unique a :=
        unique_append_of_subset fun id hid => hab ▸ hid
      rw [merge_of_slotIds_eq hab, merge_of_slotIds_ne hbc, merge_of_slotIds_ne hac,
        merge_eq_unique (hdistinct a (b ++ c)), unique_append_unique, ← List.append_assoc,
        ← unique_unique_append (a ++ b), hsubset, unique_unique_append]
  · rw [merge_of_slotIds_ne hab, merge_eq_unique fun _ => nodup_unique (a ++ b),
      unique_unique_append]
    by_cases hbc : b.slotIds = c.slotIds
    · have hsubset : unique (a ++ b ++ c) = unique (a ++ b) := by
        apply unique_append_of_subset
        intro id hid
        rw [slotIds_append, hbc]
        exact List.mem_append_right _ hid
      rw [merge_of_slotIds_eq hbc, merge_of_slotIds_ne hab, hsubset]
    · rw [merge_of_slotIds_ne hbc, merge_eq_unique (hdistinct a (b ++ c)),
        unique_append_unique, List.append_assoc]

end Merge

end Basis

end MathProgram

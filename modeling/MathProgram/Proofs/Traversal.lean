/-!
# Traversals that may fail

A traversal of a list by a function that may fail gives one result per entry, or
the first failure.  It succeeds exactly when the function succeeds at every
entry.
-/

namespace MathProgram

section Traversal

variable {α β ε : Type}

/-- Two steps succeed when the first does and the second does on its result. -/
theorem bind_eq_ok_iff
    {x : Except ε α}
    {f : α → Except ε β}
    {y : β} :
    (x >>= f) = .ok y ↔ ∃ a, x = .ok a ∧ f a = .ok y := by
  cases x with
  | error e => simp [bind, Except.bind]
  | ok a => simp [bind, Except.bind]

theorem map_eq_ok_iff
    {x : Except ε α}
    {f : α → β}
    {y : β} :
    x.map f = .ok y ↔ ∃ a, x = .ok a ∧ f a = y := by
  cases x with
  | error e => simp [Except.map]
  | ok a => simp [Except.map]

theorem exists_map_eq_ok_iff
    {x : Except ε α}
    {f : α → β} :
    (∃ y, x.map f = .ok y) ↔ ∃ a, x = .ok a := by
  cases x <;> simp [Except.map]

theorem map_eq_error_iff
    {x : Except ε α}
    {f : α → β}
    {cause : ε} :
    x.map f = .error cause ↔ x = .error cause := by
  cases x <;> simp [Except.map]

theorem mapM_cons_eq_ok_iff
    {f : α → Except ε β}
    {x : α}
    {xs : List α}
    {ys : List β} :
    (x :: xs).mapM f = .ok ys
      ↔
    ∃ y rest, f x = .ok y ∧ xs.mapM f = .ok rest ∧ ys = y :: rest := by
  rw [List.mapM_cons]
  cases f x with
  | error e => simp [bind, Except.bind]
  | ok y =>
    cases xs.mapM f with
    | error e => simp [bind, Except.bind]
    | ok rest => simp [bind, Except.bind, pure, Except.pure, eq_comm]

/-- A traversal succeeds exactly when it does so at every entry. -/
theorem mapM_eq_ok_iff
    {f : α → Except ε β}
    {xs : List α}
    {ys : List β} :
    xs.mapM f = .ok ys ↔ xs.map f = ys.map .ok := by
  induction xs generalizing ys with
  | nil =>
    cases ys <;> simp [pure, Except.pure]
  | cons x xs ih =>
    rw [mapM_cons_eq_ok_iff]
    cases ys with
    | nil => simp
    | cons y ys => simp [ih]

/-- A traversal that succeeds at every entry succeeds. -/
theorem exists_mapM_eq_ok
    {f : α → Except ε β}
    {xs : List α}
    (h : ∀ x ∈ xs, ∃ y, f x = .ok y) :
    ∃ ys, xs.mapM f = .ok ys := by
  induction xs with
  | nil =>
    exact ⟨[], rfl⟩
  | cons x xs ih =>
    obtain ⟨y, hy⟩ := h x (List.mem_cons_self ..)
    obtain ⟨ys, hys⟩ := ih fun z hz => h z (List.mem_cons_of_mem _ hz)
    exact ⟨y :: ys, mapM_cons_eq_ok_iff.mpr ⟨y, ys, hy, hys, rfl⟩⟩

/-- A traversal that succeeds does so at every entry. -/
theorem exists_of_mapM_eq_ok
    {f : α → Except ε β}
    {xs : List α}
    {ys : List β}
    (h : xs.mapM f = .ok ys)
    {x : α}
    (hx : x ∈ xs) :
    ∃ y, f x = .ok y := by
  have hmem : f x ∈ ys.map (.ok : β → Except ε β) := by
    rw [← mapM_eq_ok_iff.mp h]
    exact List.mem_map_of_mem hx
  obtain ⟨y, -, hy⟩ := List.mem_map.mp hmem
  exact ⟨y, hy.symm⟩

theorem exists_mapM_eq_ok_iff
    {f : α → Except ε β}
    {xs : List α} :
    (∃ ys, xs.mapM f = .ok ys) ↔ ∀ x ∈ xs, ∃ y, f x = .ok y := by
  constructor
  · rintro ⟨ys, hys⟩ x hx
    exact exists_of_mapM_eq_ok hys hx
  · exact exists_mapM_eq_ok

theorem length_of_mapM_eq_ok
    {f : α → Except ε β}
    {xs : List α}
    {ys : List β}
    (h : xs.mapM f = .ok ys) :
    ys.length = xs.length := by
  simpa using (congrArg List.length (mapM_eq_ok_iff.mp h)).symm

/-- The results of a traversal are those of its entries. -/
theorem getElem_of_mapM_eq_ok
    {f : α → Except ε β}
    {xs : List α}
    {ys : List β}
    (h : xs.mapM f = .ok ys)
    {i : Nat}
    (hx : i < xs.length)
    (hy : i < ys.length) :
    f xs[i] = .ok ys[i] := by
  have hget := congrArg (fun zs : List (Except ε β) => zs[i]?) (mapM_eq_ok_iff.mp h)
  simpa [List.getElem?_eq_getElem hx, List.getElem?_eq_getElem hy] using hget

/-- A traversal that fails does so with the failure of the first entry that has one. -/
theorem mapM_eq_error_iff
    {f : α → Except ε β}
    {p : α → Prop}
    [DecidablePred p]
    (h : ∀ x, (∃ y, f x = .ok y) ↔ p x)
    {xs : List α}
    {cause : ε} :
    xs.mapM f = .error cause
      ↔
    ∃ x, xs.find? (fun x => ¬ p x) = some x ∧ f x = .error cause := by
  induction xs with
  | nil =>
    simp [pure, Except.pure]
  | cons x xs ih =>
    rw [List.mapM_cons]
    by_cases hx : p x
    · obtain ⟨y, hy⟩ := (h x).mpr hx
      rw [List.find?_cons_of_neg (by simpa using hx), ← ih, hy]
      cases xs.mapM f <;> simp [bind, Except.bind, pure, Except.pure]
    · rw [List.find?_cons_of_pos (by simpa using hx)]
      cases hfail : f x with
      | ok y => exact absurd ((h x).mp ⟨y, hfail⟩) hx
      | error e => simp [bind, Except.bind, hfail]

end Traversal

end MathProgram

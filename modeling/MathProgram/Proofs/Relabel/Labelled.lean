import MathProgram.ExprError
import MathProgram.Variable

/-!
# Relabelling variables

A relabelling gives new handles for old ones, and new ids for the ids that occur
on their own.  It is faithful when handles that share an id are given handles that
share one, and no others are.

**Labelled data.**  `Labelled` says which handles and which bare ids occur in data
of some type, and how they are replaced.  Two relabellings replace alike exactly
when they agree on everything that occurs.

**Natural maps.**  A map is natural when replacing before it and after it is the same,
for every faithful relabelling.  A natural map cannot look at a handle but through
comparisons of ids, and it cannot make a handle up: two relabellings can be found
that agree on given handles and on nothing else.

**Result.**  `Natural.relabel_eq`: it is enough that a replacement is faithful on the
handles that go into a natural map.  What comes out is replaced accordingly, and
has only handles that went in.
-/

namespace MathProgram

/-- New handles for old ones, and new ids for ids that occur on their own. -/
structure Relabelling where
  handle : Variable → Variable
  onId : Nat → Nat

namespace Relabelling

/-- Handles get ids by their ids alone, and different ids stay different. -/
structure Faithful
    (ρ : Relabelling) :
    Prop where
  id_handle : ∀ v, (ρ.handle v).id = ρ.onId v.id
  injective : Function.Injective ρ.onId

/-- A replacement keeps which of some handles share their id. -/
def KeepsIdentity
    (f : Variable → Variable)
    (handles : List Variable) :
    Prop :=
  ∀ u ∈ handles, ∀ w ∈ handles, (f u).id = (f w).id ↔ u.id = w.id

/-- The first handle of an id. -/
def handleOf?
    (handles : List Variable)
    (id : Nat) :
    Option Variable :=
  handles.find? fun u => u.id == id

/-- Replace handles, and the ids of given handles by the ids of their replacements. -/
def ofHandles
    (f : Variable → Variable)
    (handles : List Variable) :
    Relabelling where
  handle := f
  onId id :=
    match handleOf? handles id with
    | some u => (f u).id
    | none => id

end Relabelling

/-- Data in which handles of variables occur, and ids on their own. -/
class Labelled (X : Type) where
  relabel : Relabelling → X → X
  handles : X → List Variable
  bareIds : X → List Nat
  relabel_eq_iff : ∀ {ρ σ : Relabelling} {x : X},
    relabel ρ x = relabel σ x
      ↔
    (∀ v ∈ handles x, ρ.handle v = σ.handle v) ∧ ∀ id ∈ bareIds x, ρ.onId id = σ.onId id

export Labelled (relabel handles bareIds relabel_eq_iff)

section Instances

variable {X Y : Type} [Labelled X] [Labelled Y]

instance : Labelled Variable where
  relabel ρ v := ρ.handle v
  handles v := [v]
  bareIds _ := []
  relabel_eq_iff := by
    intro ρ σ v
    simp

instance : Labelled (List X) where
  relabel ρ xs := xs.map (relabel ρ)
  handles xs := xs.flatMap handles
  bareIds xs := xs.flatMap bareIds
  relabel_eq_iff := by
    intro ρ σ xs
    simp only [List.map_inj_left, relabel_eq_iff, List.mem_flatMap]
    constructor
    · intro h
      exact ⟨fun v ⟨x, hx, hv⟩ => (h x hx).1 v hv, fun id ⟨x, hx, hid⟩ => (h x hx).2 id hid⟩
    · rintro ⟨hhandles, hids⟩ x hx
      exact ⟨fun v hv => hhandles v ⟨x, hx, hv⟩, fun id hid => hids id ⟨x, hx, hid⟩⟩

instance : Labelled (X × Y) where
  relabel ρ p := (relabel ρ p.1, relabel ρ p.2)
  handles p := handles p.1 ++ handles p.2
  bareIds p := bareIds p.1 ++ bareIds p.2
  relabel_eq_iff := by
    intro ρ σ p
    simp only [Prod.mk.injEq, relabel_eq_iff, List.forall_mem_append]
    exact and_and_and_comm

instance : Labelled (Except X Y) where
  relabel ρ
    | .error x => .error (relabel ρ x)
    | .ok y => .ok (relabel ρ y)
  handles
    | .error x => handles x
    | .ok y => handles y
  bareIds
    | .error x => bareIds x
    | .ok y => bareIds y
  relabel_eq_iff := by
    rintro ρ σ (x | y)
    · simp only [Except.error.injEq, relabel_eq_iff]
    · simp only [Except.ok.injEq, relabel_eq_iff]

instance : Labelled ExprError where
  relabel ρ
    | .missingVariable id => .missingVariable (ρ.onId id)
    | cause => cause
  handles _ := []
  bareIds
    | .missingVariable id => [id]
    | _ => []
  relabel_eq_iff := by
    rintro ρ σ (_ | id | _) <;> simp

@[simp] theorem relabel_ok
    (ρ : Relabelling)
    (y : Y) :
    relabel ρ (.ok y : Except X Y) = .ok (relabel ρ y) := by
  rfl

@[simp] theorem relabel_error
    (ρ : Relabelling)
    (x : X) :
    relabel ρ (.error x : Except X Y) = .error (relabel ρ x) := by
  rfl

end Instances

namespace Relabelling

section Extension

variable {f : Variable → Variable} {known : List Variable}

theorem handleOf?_eq_some
    {id : Nat}
    {u : Variable}
    (h : handleOf? known id = some u) :
    u ∈ known ∧ u.id = id := by
  refine ⟨List.mem_of_find?_eq_some h, ?_⟩
  simpa using List.find?_some h

/-- Some known handle is the first one with the id of a given one. -/
theorem exists_handleOf?
    {u : Variable}
    (hu : u ∈ known) :
    ∃ w ∈ known, w.id = u.id ∧ handleOf? known u.id = some w := by
  have hfound : (handleOf? known u.id).isSome = true :=
    List.find?_isSome.mpr ⟨u, hu, beq_self_eq_true u.id⟩
  obtain ⟨w, hw⟩ := Option.isSome_iff_exists.mp hfound
  obtain ⟨hmem, hid⟩ := handleOf?_eq_some hw
  exact ⟨w, hmem, hid, hw⟩

/-- An id of a known handle is replaced by the id of any replacement of such a handle. -/
theorem onId_ofHandles
    (h : KeepsIdentity f known)
    {u : Variable}
    (hu : u ∈ known) :
    (ofHandles f known).onId u.id = (f u).id := by
  obtain ⟨w, hw, hid, hfirst⟩ := exists_handleOf? hu
  simp only [ofHandles, hfirst]
  exact (h w hw u hu).mpr hid

/-- Above all ids of replacements. -/
def newIds
    (f : Variable → Variable) :
    List Variable → Nat
  | [] => 0
  | u :: known => (f u).id + newIds f known + 1

theorem lt_newIds
    {u : Variable}
    (hu : u ∈ known) :
    (f u).id < newIds f known := by
  induction known with
  | nil => cases hu
  | cons w known ih =>
    rw [newIds]
    rcases List.mem_cons.mp hu with rfl | hu
    · omega
    · have hbelow := ih hu
      omega

open Classical in
/--
Replace known handles as they are to be replaced, and all others by handles of a
given kind, whose ids are new unless they are known.
-/
noncomputable def extension
    (f : Variable → Variable)
    (known : List Variable)
    (offset : Nat)
    (kind : VarKind) :
    Relabelling :=
  let onId (id : Nat) : Nat :=
    match handleOf? known id with
    | some u => (f u).id
    | none => newIds f known + offset + id
  { handle := fun v => if v ∈ known then f v else { v with id := onId v.id, kind }
    onId }

variable {offset : Nat} {kind : VarKind}

theorem handle_extension_of_mem
    {v : Variable}
    (hv : v ∈ known) :
    (extension f known offset kind).handle v = f v := by
  exact if_pos hv

theorem onId_extension_of_mem
    (h : KeepsIdentity f known)
    {u : Variable}
    (hu : u ∈ known) :
    (extension f known offset kind).onId u.id = (f u).id := by
  obtain ⟨w, hw, hid, hfirst⟩ := exists_handleOf? hu
  simp only [extension, hfirst]
  exact (h w hw u hu).mpr hid

/-- An id is that of a known handle, or it is replaced by a new one. -/
theorem onId_extension_cases
    (h : KeepsIdentity f known)
    (id : Nat) :
    (∃ u ∈ known, u.id = id ∧ ∀ offset kind, (extension f known offset kind).onId id = (f u).id)
      ∨
    ((∀ u ∈ known, u.id ≠ id) ∧
      ∀ offset kind, (extension f known offset kind).onId id = newIds f known + offset + id) := by
  cases hfirst : handleOf? known id with
  | some u =>
    obtain ⟨hu, rfl⟩ := handleOf?_eq_some hfirst
    exact .inl ⟨u, hu, rfl, fun _ _ => onId_extension_of_mem h hu⟩
  | none =>
    refine .inr ⟨fun u hu hid => ?_, fun _ _ => ?_⟩
    · obtain ⟨w, -, -, hw⟩ := exists_handleOf? hu
      rw [hid, hfirst] at hw
      cases hw
    · simp only [extension, hfirst]

theorem faithful_extension
    (h : KeepsIdentity f known) :
    (extension f known offset kind).Faithful where
  id_handle := by
    intro v
    by_cases hv : v ∈ known
    · rw [handle_extension_of_mem hv, onId_extension_of_mem h hv]
    · simp only [extension, if_neg hv]
  injective := by
    intro x y hxy
    rcases onId_extension_cases h x with ⟨u, hu, rfl, hx⟩ | ⟨_, hx⟩ <;>
      rcases onId_extension_cases h y with ⟨w, hw, rfl, hy⟩ | ⟨_, hy⟩ <;>
      rw [hx, hy] at hxy
    · exact (h u hu w hw).mp hxy
    · have hbelow := lt_newIds (f := f) hu
      omega
    · have hbelow := lt_newIds (f := f) hw
      omega
    · omega

/-- Two relabellings that replace known handles as given, and nothing else alike. -/
theorem exists_extensions
    (h : KeepsIdentity f known) :
    ∃ ρ σ : Relabelling, ρ.Faithful ∧ σ.Faithful ∧
      (∀ v ∈ known, ρ.handle v = f v) ∧
      (∀ v, ρ.handle v = σ.handle v ↔ v ∈ known) ∧
      ∀ id, ρ.onId id = σ.onId id ↔ ∃ u ∈ known, u.id = id := by
  refine ⟨extension f known 0 .continuous, extension f known 1 .integer, faithful_extension h,
    faithful_extension h, fun v => handle_extension_of_mem, ?_, ?_⟩
  · intro v
    by_cases hv : v ∈ known
    · rw [handle_extension_of_mem hv, handle_extension_of_mem hv]
      exact iff_of_true rfl hv
    · refine iff_of_false (fun hsame => ?_) hv
      have hkinds := congrArg Variable.kind hsame
      simp [extension, hv] at hkinds
  · intro id
    rcases onId_extension_cases h id with ⟨u, hu, rfl, hid⟩ | ⟨hnew, hid⟩
    · rw [hid, hid]
      exact iff_of_true rfl ⟨u, hu, rfl⟩
    · rw [hid, hid]
      refine iff_of_false (by omega) ?_
      rintro ⟨u, hu, hsame⟩
      exact hnew u hu hsame

end Extension

end Relabelling

section Natural

variable {X Y : Type} [Labelled X] [Labelled Y]

/-- Replacing labels before a map or after it is the same. -/
def Natural
    (run : X → Y) :
    Prop :=
  ∀ ρ : Relabelling, ρ.Faithful → ∀ x, run (relabel ρ x) = relabel ρ (run x)

/-- All ids that occur on their own are ids of handles that occur. -/
def HasHandles
    (x : X) :
    Prop :=
  ∀ id ∈ bareIds x, ∃ u ∈ handles x, u.id = id

/--
A natural map respects every replacement that keeps the identity of the handles
that go in.  Only such handles and their ids come out.
-/
theorem Natural.relabel_eq
    {run : X → Y}
    (hrun : Natural run)
    {f : Variable → Variable}
    {x : X}
    (hx : HasHandles x)
    (hf : Relabelling.KeepsIdentity f (handles x)) :
    run (relabel (.ofHandles f (handles x)) x)
        = relabel (.ofHandles f (handles x)) (run x) ∧
      (∀ v ∈ handles (run x), v ∈ handles x) ∧
      ∀ id ∈ bareIds (run x), ∃ u ∈ handles x, u.id = id := by
  obtain ⟨ρ, σ, hρ, hσ, hgiven, hhandles, hids⟩ := Relabelling.exists_extensions hf
  have hagree {Z : Type} [Labelled Z] {z : Z}
      (hzhandles : ∀ v ∈ handles z, v ∈ handles x)
      (hzids : ∀ id ∈ bareIds z, ∃ u ∈ handles x, u.id = id) :
      relabel (.ofHandles f (handles x)) z = relabel ρ z := by
    refine relabel_eq_iff.mpr ⟨fun v hv => (hgiven v (hzhandles v hv)).symm, fun id hid => ?_⟩
    obtain ⟨u, hu, rfl⟩ := hzids id hid
    rw [Relabelling.onId_ofHandles hf hu, ← hgiven u hu, hρ.id_handle]
  have hsame : relabel ρ x = relabel σ x :=
    relabel_eq_iff.mpr ⟨fun v hv => (hhandles v).mpr hv, fun id hid => (hids id).mpr (hx id hid)⟩
  have hclosed : relabel ρ (run x) = relabel σ (run x) := by
    rw [← hrun ρ hρ, hsame, hrun σ hσ]
  obtain ⟨houtHandles, houtIds⟩ := relabel_eq_iff.mp hclosed
  have hin (v : Variable) (hv : v ∈ handles (run x)) : v ∈ handles x :=
    (hhandles v).mp (houtHandles v hv)
  have hinIds (id : Nat) (hid : id ∈ bareIds (run x)) : ∃ u ∈ handles x, u.id = id :=
    (hids id).mp (houtIds id hid)
  refine ⟨?_, hin, hinIds⟩
  rw [hagree (fun v hv => hv) hx, hrun ρ hρ, hagree hin hinIds]

/-- A natural map makes no handle up. -/
theorem Natural.handles_subset
    {run : X → Y}
    (hrun : Natural run)
    {x : X}
    (hx : HasHandles x) :
    (∀ v ∈ handles (run x), v ∈ handles x) ∧
      ∀ id ∈ bareIds (run x), ∃ u ∈ handles x, u.id = id := by
  exact (hrun.relabel_eq (f := id) hx fun _ _ _ _ => Iff.rfl).2

/-- What a natural computation succeeds with has only handles and ids that went in. -/
theorem Natural.closed_of_eq_ok
    {Z : Type}
    [Labelled Z]
    {run : X → Except Y Z}
    (hrun : Natural run)
    {x : X}
    (hx : HasHandles x)
    {z : Z}
    (h : run x = .ok z) :
    (∀ v ∈ handles z, v ∈ handles x) ∧ ∀ id ∈ bareIds z, ∃ u ∈ handles x, u.id = id := by
  have hclosed := hrun.handles_subset hx
  rwa [h] at hclosed

/-- Data in which no id occurs on its own has the handles of all its ids. -/
theorem hasHandles_of_bareIds_eq_nil
    {x : X}
    (h : bareIds x = []) :
    HasHandles x := by
  intro id hid
  rw [h] at hid
  cases hid

end Natural

end MathProgram

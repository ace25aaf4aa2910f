import MathProgram.Constraint
import MathProgram.Proofs.Relabel.Expression
import MathProgram.Proofs.VectorSum

/-!
# Vectors and constraints under a faithful relabelling

A vector has as many components after a relabelling as before, so that the same
vectors can be added and compared.  The rows of a constraint are taken component by
component, and the linear row of a comparison reports the ids of the replaced
handles.

**Results.**
* `Expression.add_relabel`, `Expression.compare_relabel`: sums and comparisons, where
  they are defined and where they are refused.
* `Constraint.rows_relabel`, `ScalarConstraint.linearRow_relabel`: the rows.
-/

namespace MathProgram

section Vectors

variable {α : Type}

instance : Labelled (AffineVector α) where
  relabel ρ e :=
    { vars := e.vars.map ρ.handle
      matrix := e.matrix
      offset := e.offset
      matrix_cols := by rw [List.length_map, e.matrix_cols]
      matrix_rows := e.matrix_rows }
  handles e := e.vars
  bareIds _ := []
  relabel_eq_iff := by
    intro ρ σ e
    simp [AffineVector.ext_iff]

instance : Labelled (VectorExpr α) where
  relabel ρ
    | .constant values => .constant values
    | .vars slots => .vars (slots.map ρ.handle)
    | .affine e => .affine (relabel ρ e)
  handles e := e.basis
  bareIds _ := []
  relabel_eq_iff := by
    rintro ρ σ (values | slots | e)
    · simp [VectorExpr.basis]
    · simp [VectorExpr.basis]
    · simp only [VectorExpr.affine.injEq, relabel_eq_iff]
      rfl

instance : Labelled (Expression α) where
  relabel ρ
    | .scalar e => .scalar (relabel ρ e)
    | .vector e => .vector (relabel ρ e)
  handles e := e.vars
  bareIds _ := []
  relabel_eq_iff := by
    rintro ρ σ (e | e)
    · simp only [Expression.scalar.injEq, relabel_eq_iff]
      rfl
    · simp only [Expression.vector.injEq, relabel_eq_iff]
      rfl

@[simp] theorem VectorExpr.length_relabel
    (ρ : Relabelling)
    (e : VectorExpr α) :
    (relabel ρ e).length = e.length := by
  cases e with
  | constant values => rfl
  | vars slots => exact List.length_map _
  | affine e => rfl

end Vectors

section Constraints

variable {α : Type}

instance : Labelled (ScalarConstraint α) where
  relabel ρ c := { lhs := relabel ρ c.lhs, sense := c.sense, rhs := relabel ρ c.rhs }
  handles c := c.lhs.vars ++ c.rhs.vars
  bareIds _ := []
  relabel_eq_iff := by
    intro ρ σ c
    simp only [ScalarConstraint.mk.injEq, relabel_eq_iff, List.forall_mem_append]
    simp [handles, bareIds]

instance : Labelled (VectorConstraint α) where
  relabel ρ c :=
    { lhs := relabel ρ c.lhs
      sense := c.sense
      rhs := relabel ρ c.rhs
      sameLength := by rw [VectorExpr.length_relabel, VectorExpr.length_relabel, c.sameLength] }
  handles c := c.lhs.basis ++ c.rhs.basis
  bareIds _ := []
  relabel_eq_iff := by
    intro ρ σ c
    simp only [VectorConstraint.mk.injEq, relabel_eq_iff, List.forall_mem_append]
    simp [handles, bareIds]

instance : Labelled (Constraint α) where
  relabel ρ
    | .scalar c => .scalar (relabel ρ c)
    | .vector c => .vector (relabel ρ c)
  handles
    | .scalar c => handles c
    | .vector c => handles c
  bareIds _ := []
  relabel_eq_iff := by
    rintro ρ σ (c | c)
    · simp only [Constraint.scalar.injEq, relabel_eq_iff]
      rfl
    · simp only [Constraint.vector.injEq, relabel_eq_iff]
      rfl

instance : Labelled (LinearRow α) where
  relabel ρ row :=
    { ids := row.ids.map ρ.onId, coeffs := row.coeffs, sense := row.sense, rhs := row.rhs }
  handles _ := []
  bareIds row := row.ids
  relabel_eq_iff := by
    intro ρ σ row
    simp

end Constraints

namespace AffineVector

section Relabel

variable {α : Type} {ρ : Relabelling}

theorem ofParts_relabel
    (matrix : DenseMatrix α)
    (vars : Basis)
    (offset : List α) :
    ofParts matrix (vars.map ρ.handle) offset = relabel ρ (ofParts matrix vars offset) := by
  unfold ofParts
  simp only [List.length_map]
  split
  · split <;> rfl
  · rfl

theorem component_relabel
    (e : AffineVector α)
    (i : Nat) :
    (relabel ρ e).component i = relabel ρ (e.component i) := by
  by_cases h : i < e.length
  · obtain ⟨s, hs⟩ := exists_component h
    obtain ⟨hvars, hrow, hoffset⟩ := component_eq_ok_iff.mp hs
    rw [hs]
    exact component_eq_ok_iff.mpr ⟨congrArg (List.map ρ.handle) hvars, hrow, hoffset⟩
  · have hlength : (relabel ρ e).length ≤ i := Nat.not_lt.mp h
    rw [component_of_length_le hlength, component_of_length_le (Nat.not_lt.mp h)]
    rfl

variable [Zero α]

theorem ofBasis_relabel
    [One α]
    (vars : Basis) :
    ofBasis (vars.map ρ.handle) = relabel ρ (ofBasis vars : AffineVector α) := by
  have hmatrix : DenseMatrix.identity (vars.map ρ.handle).length
      = (DenseMatrix.identity vars.length : DenseMatrix α) := by
    rw [List.length_map]
  have hoffset : List.replicate (vars.map ρ.handle).length (0 : α)
      = List.replicate vars.length 0 := by
    rw [List.length_map]
  ext1
  · rfl
  · exact hmatrix
  · exact hoffset

variable [Add α]

theorem remap_relabel
    (e : AffineVector α)
    (target : Basis)
    (slots : List Nat) :
    (relabel ρ e).remap (target.map ρ.handle) slots = relabel ρ (e.remap target slots) := by
  have hmatrix : remapColumns slots (target.map ρ.handle).length e.matrix
      = remapColumns slots target.length e.matrix := by
    rw [List.length_map]
  ext1
  · rfl
  · exact hmatrix
  · rfl

theorem isLabelled_slotted
    (ρ : Relabelling) :
    (slotted α).IsLabelled ρ where
  vars _ := rfl
  remap := remap_relabel
  addSlots _ _ _ _ := rfl

variable (hρ : ρ.Faithful)

include hρ

theorem add_relabel
    (a b : AffineVector α) :
    (relabel ρ a).add (relabel ρ b) = relabel ρ (a.add b) := by
  by_cases h : a.length = b.length
  · have hrelabelled : (relabel ρ a).length = (relabel ρ b).length := h
    rw [add_of_length_eq h, add_of_length_eq hrelabelled]
    exact congrArg Except.ok ((isLabelled_slotted ρ).relabel_add hρ a b)
  · have hrelabelled : (relabel ρ a).length ≠ (relabel ρ b).length := h
    rw [add_of_length_ne h, add_of_length_ne hrelabelled]
    rfl

theorem reindex_relabel
    (e : AffineVector α)
    (target : Basis) :
    (relabel ρ e).reindex (target.map ρ.handle) = relabel ρ (e.reindex target) := by
  exact (isLabelled_slotted ρ).relabel_reindex hρ e target

end Relabel

end AffineVector

namespace VectorExpr

section Relabel

variable {α : Type} {ρ : Relabelling}

theorem kind_relabel
    (ρ : Relabelling)
    (e : VectorExpr α) :
    (relabel ρ e).kind = e.kind := by
  cases e <;> rfl

theorem basis_relabel
    (e : VectorExpr α) :
    (relabel ρ e).basis = e.basis.map ρ.handle := by
  cases e <;> rfl

theorem component_relabel
    (e : VectorExpr α)
    (i : Nat) :
    (relabel ρ e).component i = relabel ρ (e.component i) := by
  cases e with
  | constant values =>
    have hconstant : relabel ρ (constant values) = constant values := rfl
    rw [hconstant, component]
    cases values[i]? <;> rfl
  | vars slots =>
    have hvars : relabel ρ (vars slots : VectorExpr α) = vars (slots.map ρ.handle) := rfl
    rw [hvars, component, component, List.getElem?_map, List.length_map]
    cases slots[i]? <;> rfl
  | affine e =>
    have haffine : (relabel ρ e).component i = relabel ρ (e.component i) := e.component_relabel i
    have hmap : (relabel ρ (e.component i)).map ScalarExpr.affine
        = relabel ρ ((e.component i).map ScalarExpr.affine) :=
      map_relabel ScalarExpr.affine (fun _ => rfl) (e.component i)
    rw [← haffine] at hmap
    exact hmap

variable [Zero α] [One α]

theorem toAffine_relabel
    (e : VectorExpr α) :
    (relabel ρ e).toAffine = relabel ρ e.toAffine := by
  cases e with
  | constant values => rfl
  | vars slots => exact AffineVector.ofBasis_relabel slots
  | affine e => rfl

theorem scale_relabel
    [Mul α]
    (e : VectorExpr α)
    (factor : α) :
    (relabel ρ e).scale factor = relabel ρ (e.scale factor) := by
  cases e with
  | constant values => rfl
  | vars slots =>
    have hbasis : .ofBasis (slots.map ρ.handle) = relabel ρ (.ofBasis slots : AffineVector α) :=
      AffineVector.ofBasis_relabel slots
    exact congrArg (fun a => affine (a.scale factor)) hbasis
  | affine e => rfl

variable [Add α]

theorem shift_relabel
    (e : VectorExpr α)
    (k : α) :
    (relabel ρ e).shift k = relabel ρ (e.shift k) := by
  cases e with
  | constant values => rfl
  | vars slots =>
    have hbasis : .ofBasis (slots.map ρ.handle) = relabel ρ (.ofBasis slots : AffineVector α) :=
      AffineVector.ofBasis_relabel slots
    exact congrArg (fun a => affine (a.shift k)) hbasis
  | affine e => rfl

variable (hρ : ρ.Faithful)

include hρ

theorem sum_relabel
    (a b : VectorExpr α) :
    (relabel ρ a).sum (relabel ρ b) = relabel ρ (a.sum b) := by
  rcases sum_cases a b with ⟨x, y, rfl, rfl, _⟩ | ⟨hkinds, hsum⟩
  · rfl
  · rw [← a.kind_relabel ρ, ← b.kind_relabel ρ] at hkinds
    rw [hsum, sum_of_kind hkinds, toAffine_relabel, toAffine_relabel,
      (AffineVector.isLabelled_slotted ρ).relabel_add hρ]
    rfl

theorem add_relabel
    (a b : VectorExpr α) :
    (relabel ρ a).add (relabel ρ b) = relabel ρ (a.add b) := by
  by_cases h : a.length = b.length
  · have hrelabelled : (relabel ρ a).length = (relabel ρ b).length := by
      rw [length_relabel, length_relabel, h]
    rw [add_of_length_eq h, add_of_length_eq hrelabelled, sum_relabel hρ]
    rfl
  · have hrelabelled : (relabel ρ a).length ≠ (relabel ρ b).length := by
      rwa [length_relabel, length_relabel]
    rw [add_of_length_ne h, add_of_length_ne hrelabelled, length_relabel, length_relabel]
    rfl

end Relabel

end VectorExpr

namespace Expression

section Relabel

variable {α : Type} {ρ : Relabelling}

theorem vars_relabel
    (e : Expression α) :
    (relabel ρ e).vars = e.vars.map ρ.handle := by
  cases e with
  | scalar e => exact e.vars_relabel
  | vector e => exact e.basis_relabel

theorem scale_relabel
    [Zero α]
    [One α]
    [Mul α]
    (e : Expression α)
    (factor : α) :
    (relabel ρ e).scale factor = relabel ρ (e.scale factor) := by
  cases e with
  | scalar e => exact congrArg scalar (e.scale_relabel factor)
  | vector e => exact congrArg vector (e.scale_relabel factor)

theorem add_relabel
    [Zero α]
    [One α]
    [Add α]
    (hρ : ρ.Faithful)
    (a b : Expression α) :
    (relabel ρ a).add (relabel ρ b) = relabel ρ (a.add b) := by
  cases a with
  | scalar a =>
    cases b with
    | scalar b => exact congrArg (fun e => Except.ok (scalar e)) (ScalarExpr.add_relabel hρ a b)
    | vector b =>
      cases a with
      | constant k => exact congrArg (fun e => Except.ok (vector e)) (b.shift_relabel k)
      | _ =>
        exact congrArg (fun k => Except.error (ExprError.unsupportedOperands .plus _ k))
          (b.kind_relabel ρ)
  | vector a =>
    cases b with
    | scalar b =>
      cases b with
      | constant k => exact congrArg (fun e => Except.ok (vector e)) (a.shift_relabel k)
      | _ =>
        exact congrArg (fun k => Except.error (ExprError.unsupportedOperands .plus k _))
          (a.kind_relabel ρ)
    | vector b =>
      have hadd : (relabel ρ a).add (relabel ρ b) = relabel ρ (a.add b) :=
        VectorExpr.add_relabel hρ a b
      exact (congrArg (Except.map vector) hadd).trans (map_relabel vector (fun _ => rfl) (a.add b))

end Relabel

end Expression

namespace VectorConstraint

section Relabel

variable {α : Type} {ρ : Relabelling}

theorem ofSides_relabel
    (lhs : VectorExpr α)
    (sense : Sense)
    (rhs : VectorExpr α) :
    ofSides (relabel ρ lhs) sense (relabel ρ rhs) = relabel ρ (ofSides lhs sense rhs) := by
  unfold ofSides
  simp only [VectorExpr.length_relabel]
  split <;> rfl

theorem component_relabel
    (c : VectorConstraint α)
    (i : Nat) :
    (relabel ρ c).component i = relabel ρ (c.component i) := by
  have hlhs : (relabel ρ c).lhs.component i = relabel ρ (c.lhs.component i) :=
    c.lhs.component_relabel i
  have hrhs : (relabel ρ c).rhs.component i = relabel ρ (c.rhs.component i) :=
    c.rhs.component_relabel i
  rw [component, component, hlhs, hrhs]
  cases c.lhs.component i with
  | error cause => rfl
  | ok lhs => cases c.rhs.component i <;> rfl

theorem components_relabel
    (c : VectorConstraint α) :
    (relabel ρ c).components = relabel ρ c.components := by
  have hlength : (relabel ρ c).length = c.length :=
    c.lhs.length_relabel ρ
  have hcomponents : ((List.range c.length).map id).mapM (relabel ρ c).component
      = relabel ρ ((List.range c.length).mapM c.component) :=
    mapM_relabel c.component_relabel (List.range c.length)
  rw [components, hlength, ← List.map_id (List.range c.length)]
  exact hcomponents

end Relabel

end VectorConstraint

section Constraints

variable {α : Type} {ρ : Relabelling}

theorem Constraint.rows_relabel
    (c : Constraint α) :
    (relabel ρ c).rows = relabel ρ c.rows := by
  cases c with
  | scalar c => rfl
  | vector c => exact c.components_relabel

/-- A linear row reports the ids of the replaced handles. -/
theorem ScalarConstraint.linearRow_relabel
    [Zero α]
    [One α]
    [Add α]
    [Mul α]
    [Neg α]
    (hρ : ρ.Faithful)
    (c : ScalarConstraint α) :
    (relabel ρ c).linearRow = relabel ρ c.linearRow := by
  have hdifference : ((relabel ρ c).lhs.sub (relabel ρ c).rhs).toAffine?
      = (c.lhs.sub c.rhs).toAffine?.map (relabel ρ) := by
    rw [← ScalarExpr.toAffine?_relabel, ← ScalarExpr.sub_relabel hρ]
    rfl
  unfold linearRow
  rw [hdifference]
  cases (c.lhs.sub c.rhs).toAffine? with
  | none =>
    have hlhs : (relabel ρ c).lhs.kind = c.lhs.kind := c.lhs.kind_relabel ρ
    have hrhs : (relabel ρ c).rhs.kind = c.rhs.kind := c.rhs.kind_relabel ρ
    simp only [Option.map_none, hlhs, hrhs]
    rfl
  | some difference =>
    simp only [Option.map_some, Affine.folded_relabel hρ]
    have hids : (relabel ρ difference.folded).vars.slotIds
        = difference.folded.vars.slotIds.map ρ.onId :=
      Basis.slotIds_relabel hρ difference.folded.vars
    rw [hids]
    rfl

theorem Expression.compare_relabel
    (a : Expression α)
    (sense : Sense)
    (b : Expression α) :
    (relabel ρ a).compare sense (relabel ρ b) = relabel ρ (a.compare sense b) := by
  have hsides (lhs rhs : VectorExpr α) :
      (VectorConstraint.ofSides (relabel ρ lhs) sense (relabel ρ rhs)).map Constraint.vector
        = relabel ρ ((VectorConstraint.ofSides lhs sense rhs).map Constraint.vector) := by
    rw [VectorConstraint.ofSides_relabel]
    exact map_relabel Constraint.vector (fun _ => rfl) _
  have hbroadcast (k : α) (e : VectorExpr α) :
      VectorExpr.broadcast k (relabel ρ e).length
        = relabel ρ (VectorExpr.broadcast k e.length) := by
    rw [e.length_relabel ρ]
    rfl
  cases a with
  | scalar a =>
    cases b with
    | scalar b => rfl
    | vector b =>
      cases a with
      | constant k =>
        have hmoved := hsides (.broadcast k b.length) b
        rw [← hbroadcast] at hmoved
        exact hmoved
      | _ =>
        exact congrArg (fun k => Except.error (ExprError.unsupportedOperands .comparison _ k))
          (b.kind_relabel ρ)
  | vector a =>
    cases b with
    | scalar b =>
      cases b with
      | constant k =>
        have hmoved := hsides a (.broadcast k a.length)
        rw [← hbroadcast] at hmoved
        exact hmoved
      | _ =>
        exact congrArg (fun k => Except.error (ExprError.unsupportedOperands .comparison k _))
          (a.kind_relabel ρ)
    | vector b => exact hsides a b

end Constraints

end MathProgram

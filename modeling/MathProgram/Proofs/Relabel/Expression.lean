import MathProgram.Expression.Summation
import MathProgram.Proofs.AlignedSum
import MathProgram.Proofs.ExpressionSum
import MathProgram.Proofs.Relabel.Basis

/-!
# Scalar expressions under a faithful relabelling

The handles of an expression are those of its basis, and replacing them keeps all
coefficients where they are.  The operations that do not align bases only carry
handles along.  Those that do commute with relabellings because the
constructions of bases and slot maps do.

**Results.**
* `Affine.add_relabel`, `Quadratic.add_relabel`: sums over a basis.
* `ScalarExpr.add_relabel`: sums on every route.
* `ScalarExpr.sumColumn_relabel`, `ScalarExpr.dot_relabel` and the other sums of many
  expressions.
-/

namespace MathProgram

section Instances

variable {α : Type}

instance : Labelled (Affine α) where
  relabel ρ e :=
    { vars := e.vars.map ρ.handle
      coeffs := e.coeffs
      constant := e.constant
      length_coeffs := by rw [List.length_map, e.length_coeffs] }
  handles e := e.vars
  bareIds _ := []
  relabel_eq_iff := by
    intro ρ σ e
    simp [Affine.ext_iff]

instance : Labelled (Quadratic α) where
  relabel ρ e :=
    { vars := e.vars.map ρ.handle
      quad := e.quad
      linear := e.linear
      constant := e.constant
      quad_rows := by rw [List.length_map, e.quad_rows]
      quad_cols := by rw [List.length_map, e.quad_cols]
      length_linear := by rw [List.length_map, e.length_linear] }
  handles e := e.vars
  bareIds _ := []
  relabel_eq_iff := by
    intro ρ σ e
    simp [Quadratic.ext_iff]

instance : Labelled (ScalarExpr α) where
  relabel ρ
    | .constant k => .constant k
    | .var v => .var (ρ.handle v)
    | .affine e => .affine (relabel ρ e)
    | .quadratic e => .quadratic (relabel ρ e)
  handles e := e.vars
  bareIds _ := []
  relabel_eq_iff := by
    rintro ρ σ (k | v | e | e)
    · simp [ScalarExpr.vars]
    · simp [ScalarExpr.vars]
    · simp only [ScalarExpr.affine.injEq, relabel_eq_iff]
      rfl
    · simp only [ScalarExpr.quadratic.injEq, relabel_eq_iff]
      rfl

end Instances

namespace Affine

section Relabel

variable {α : Type} {ρ : Relabelling}

theorem ofParts_relabel
    (vars : Basis)
    (coeffs : List α)
    (constant : α) :
    ofParts (vars.map ρ.handle) coeffs constant = relabel ρ (ofParts vars coeffs constant) := by
  unfold ofParts
  by_cases h : coeffs.length = vars.length
  · simp only [List.length_map, h]
    rfl
  · simp only [List.length_map, h]
    rfl

variable [Zero α] [Add α]

theorem remap_relabel
    (e : Affine α)
    (target : Basis)
    (slots : List Nat) :
    (relabel ρ e).remap (target.map ρ.handle) slots = relabel ρ (e.remap target slots) := by
  have hcoeffs : remapVector slots (target.map ρ.handle).length e.coeffs
      = remapVector slots target.length e.coeffs := by
    rw [List.length_map]
  ext1
  · rfl
  · exact hcoeffs
  · rfl

theorem isLabelled_slotted
    (ρ : Relabelling) :
    (slotted α).IsLabelled ρ where
  vars _ := rfl
  remap := remap_relabel
  addSlots _ _ _ _ := rfl

variable (hρ : ρ.Faithful)

include hρ

theorem add_relabel
    (a b : Affine α) :
    (relabel ρ a).add (relabel ρ b) = relabel ρ (a.add b) := by
  exact (isLabelled_slotted ρ).relabel_add hρ a b

theorem reindex_relabel
    (e : Affine α)
    (target : Basis) :
    (relabel ρ e).reindex (target.map ρ.handle) = relabel ρ (e.reindex target) := by
  exact (isLabelled_slotted ρ).relabel_reindex hρ e target

theorem folded_relabel
    (e : Affine α) :
    (relabel ρ e).folded = relabel ρ e.folded := by
  have hfold : (relabel ρ e).vars.fold = (e.vars.fold.1.map ρ.handle, e.vars.fold.2) :=
    Basis.fold_relabel hρ e.vars
  rw [folded, hfold, remap_relabel]
  rfl

end Relabel

end Affine

namespace Quadratic

section Relabel

variable {α : Type} {ρ : Relabelling}

theorem ofParts_relabel
    (quad : DenseMatrix α)
    (linear : List α)
    (constant : α)
    (vars : Basis) :
    ofParts quad linear constant (vars.map ρ.handle)
      =
    relabel ρ (ofParts quad linear constant vars) := by
  unfold ofParts
  simp only [List.length_map]
  split
  · split
    · split <;> rfl
    · rfl
  · rfl

theorem ofQuad_relabel
    [Zero α]
    (quad : DenseMatrix α)
    (vars : Basis) :
    ofQuad quad (vars.map ρ.handle) = relabel ρ (ofQuad quad vars) := by
  rw [ofQuad, ofParts_relabel, List.length_map]
  rfl

theorem ofAffine_relabel
    [Zero α]
    (e : Affine α) :
    ofAffine (relabel ρ e) = relabel ρ (ofAffine e) := by
  have hquad : DenseMatrix.zeros (e.vars.map ρ.handle).length (e.vars.map ρ.handle).length
      = (DenseMatrix.zeros e.vars.length e.vars.length : DenseMatrix α) := by
    rw [List.length_map]
  ext1
  · rfl
  · exact hquad
  · rfl
  · rfl

variable [Zero α] [Add α]

theorem remap_relabel
    (e : Quadratic α)
    (target : Basis)
    (slots : List Nat) :
    (relabel ρ e).remap (target.map ρ.handle) slots = relabel ρ (e.remap target slots) := by
  have hquad : remapSquare slots (target.map ρ.handle).length e.quad
      = remapSquare slots target.length e.quad := by
    rw [List.length_map]
  have hlinear : remapVector slots (target.map ρ.handle).length e.linear
      = remapVector slots target.length e.linear := by
    rw [List.length_map]
  ext1
  · rfl
  · exact hquad
  · exact hlinear
  · rfl

theorem isLabelled_slotted
    (ρ : Relabelling) :
    (slotted α).IsLabelled ρ where
  vars _ := rfl
  remap := remap_relabel
  addSlots _ _ _ _ := rfl

variable (hρ : ρ.Faithful)

include hρ

theorem add_relabel
    (a b : Quadratic α) :
    (relabel ρ a).add (relabel ρ b) = relabel ρ (a.add b) := by
  exact (isLabelled_slotted ρ).relabel_add hρ a b

theorem addAffine_relabel
    (a : Quadratic α)
    (b : Affine α) :
    (relabel ρ a).addAffine (relabel ρ b) = relabel ρ (a.addAffine b) := by
  rw [addAffine, ofAffine_relabel, add_relabel hρ]
  rfl

theorem reindex_relabel
    (e : Quadratic α)
    (target : Basis) :
    (relabel ρ e).reindex (target.map ρ.handle) = relabel ρ (e.reindex target) := by
  exact (isLabelled_slotted ρ).relabel_reindex hρ e target

theorem folded_relabel
    (e : Quadratic α) :
    (relabel ρ e).folded = relabel ρ e.folded := by
  have hfold : (relabel ρ e).vars.fold = (e.vars.fold.1.map ρ.handle, e.vars.fold.2) :=
    Basis.fold_relabel hρ e.vars
  rw [folded, hfold, remap_relabel]
  rfl

/-- The coefficients of products are read from the folded matrix, which has no handles. -/
theorem coeffs_relabel
    (e : Quadratic α) :
    (relabel ρ e).coeffs = e.coeffs := by
  simp only [coeffs, folded_relabel hρ]
  rfl

end Relabel

end Quadratic

namespace ScalarExpr

section Relabel

variable {α : Type} {ρ : Relabelling}

theorem degree_relabel
    (a : ScalarExpr α) :
    (relabel ρ a).degree = a.degree := by
  cases a <;> rfl

theorem kind_relabel
    (ρ : Relabelling)
    (a : ScalarExpr α) :
    (relabel ρ a).kind = a.kind := by
  cases a <;> rfl

theorem vars_relabel
    (a : ScalarExpr α) :
    (relabel ρ a).vars = a.vars.map ρ.handle := by
  cases a <;> rfl

theorem cellAt_relabel
    (column : Nat)
    (cells : Basis) :
    cellAt column (cells.map ρ.handle) = relabel ρ (cellAt column cells) := by
  unfold cellAt
  rw [List.getElem?_map, List.length_map]
  cases cells[column]? <;> rfl

variable [Zero α] [One α]

theorem toAffine?_relabel
    (a : ScalarExpr α) :
    (relabel ρ a).toAffine? = a.toAffine?.map (relabel ρ) := by
  cases a <;> rfl

theorem toQuadratic_relabel
    (a : ScalarExpr α) :
    (relabel ρ a).toQuadratic = relabel ρ a.toQuadratic := by
  cases a with
  | constant k => rfl
  | var v => rfl
  | affine e => exact Quadratic.ofAffine_relabel e
  | quadratic e => rfl

theorem scale_relabel
    [Mul α]
    (a : ScalarExpr α)
    (factor : α) :
    (relabel ρ a).scale factor = relabel ρ (a.scale factor) := by
  cases a <;> rfl

theorem neg_relabel
    [Mul α]
    [Neg α]
    (a : ScalarExpr α) :
    (relabel ρ a).neg = relabel ρ a.neg := by
  exact scale_relabel a (-1)

variable [Add α] (hρ : ρ.Faithful)

include hρ

theorem coeffs_relabel
    (a : ScalarExpr α) :
    (relabel ρ a).coeffs = a.coeffs := by
  cases a with
  | constant k => rfl
  | var v => rfl
  | affine e =>
    have hfolded : (relabel ρ e).folded = relabel ρ e.folded := Affine.folded_relabel hρ e
    have hcoeffs : (relabel ρ e).folded.coeffs = e.folded.coeffs := by
      rw [hfolded]
      rfl
    exact hcoeffs
  | quadratic e => exact Quadratic.coeffs_relabel hρ e

/-- A relabelled sum takes the route of the sum. -/
theorem add_relabel
    (a b : ScalarExpr α) :
    (relabel ρ a).add (relabel ρ b) = relabel ρ (a.add b) := by
  have hdegree : max (relabel ρ a).degree (relabel ρ b).degree = max a.degree b.degree := by
    rw [degree_relabel, degree_relabel]
  rcases add_routes a b with ⟨j, k, rfl, rfl, _⟩ | ⟨e, f, he, hf, hone, hadd⟩ | ⟨htwo, hadd⟩
  · rfl
  · have he' : (relabel ρ a).toAffine? = some (relabel ρ e) := by
      rw [toAffine?_relabel, he, Option.map_some]
    have hf' : (relabel ρ b).toAffine? = some (relabel ρ f) := by
      rw [toAffine?_relabel, hf, Option.map_some]
    rw [add_of_toAffine? he' hf' (hdegree.trans hone), hadd, Affine.add_relabel hρ]
    rfl
  · rw [add_of_degree_eq_two (hdegree.trans htwo), hadd, toQuadratic_relabel, toQuadratic_relabel,
      Quadratic.add_relabel hρ]
    rfl

theorem sub_relabel
    [Mul α]
    [Neg α]
    (a b : ScalarExpr α) :
    (relabel ρ a).sub (relabel ρ b) = relabel ρ (a.sub b) := by
  rw [sub, scale_relabel, add_relabel hρ]
  rfl

theorem foldl_add_relabel
    (items : List (ScalarExpr α))
    (a : ScalarExpr α) :
    (items.map (relabel ρ)).foldl add (relabel ρ a) = relabel ρ (items.foldl add a) := by
  induction items generalizing a with
  | nil =>
    rfl
  | cons item items ih =>
    rw [List.map_cons, List.foldl_cons, List.foldl_cons, add_relabel hρ, ih]

theorem sum_relabel
    (items : List (ScalarExpr α)) :
    sum (items.map (relabel ρ)) = relabel ρ (sum items) := by
  exact foldl_add_relabel hρ items empty

theorem sumFromConstant_relabel
    (items : List (ScalarExpr α)) :
    sumFromConstant (items.map (relabel ρ)) = relabel ρ (sumFromConstant items) := by
  exact foldl_add_relabel hρ items (constant 0)

theorem sumVars_relabel
    (vars : Basis) :
    sumVars (vars.map ρ.handle) = relabel ρ (sumVars vars : ScalarExpr α) := by
  rw [sumVars, sumVars, ← sum_relabel hρ, List.map_map, List.map_map]
  rfl

theorem sumRow_relabel
    (grid : List Basis)
    (row : Nat) :
    sumRow (grid.map (List.map ρ.handle)) row
      =
    relabel ρ (sumRow grid row : Except ExprError (ScalarExpr α)) := by
  rw [sumRow, sumRow, List.getElem?_map, List.length_map]
  cases grid[row]? with
  | none => rfl
  | some cells => exact congrArg Except.ok (sumVars_relabel hρ cells)

theorem sumColumn_relabel
    (grid : List Basis)
    (column : Nat) :
    sumColumn (grid.map (List.map ρ.handle)) column
      =
    relabel ρ (sumColumn grid column : Except ExprError (ScalarExpr α)) := by
  rw [sumColumn, sumColumn, mapM_relabel (cellAt_relabel column)]
  exact map_relabel sumVars (sumVars_relabel hρ) _

theorem dot_relabel
    (vars : Basis)
    (coeffs : List α) :
    dot (vars.map ρ.handle) coeffs = (dot vars coeffs).map (relabel ρ) := by
  unfold dot
  by_cases h : coeffs.length = vars.length
  · have hmapped : coeffs.length = (vars.map ρ.handle).length := by
      rw [List.length_map, h]
    rw [dif_pos h, dif_pos hmapped]
    exact congrArg Except.ok (add_relabel hρ empty (affine ⟨vars, coeffs, 0, h⟩))
  · have hmapped : ¬ coeffs.length = (vars.map ρ.handle).length := by
      rwa [List.length_map]
    rw [dif_neg h, dif_neg hmapped, List.length_map]
    rfl

end Relabel

end ScalarExpr

end MathProgram

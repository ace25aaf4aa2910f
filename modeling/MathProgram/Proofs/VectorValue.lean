import MathProgram.Proofs.Rows
import MathProgram.Proofs.ScalarAlgebra

/-!
# Values of vector expressions

A vector expression has one value per component: constants their numbers,
variables what the assignment gives them, and row `i` of an affine vector its
weighted sum plus offset `i`.

**Components.**  The value of a component, read as a scalar expression, is the
value of the vector at that place.
-/

namespace MathProgram

section Values

variable {α : Type} [CommRing α]

/-- The value of every component: its row of the matrix weighted, plus its offset. -/
def AffineVector.values
    (e : AffineVector α)
    (x : Assignment α) :
    List α :=
  List.zipWith (fun row k => (List.zipWith (fun c v => c * x v.id) row e.vars).sum + k)
    e.matrix.rows e.offset

@[simp] theorem AffineVector.length_values
    (e : AffineVector α)
    (x : Assignment α) :
    (e.values x).length = e.length := by
  simp [values, length, e.matrix_rows]

theorem AffineVector.getElem?_values
    {e : AffineVector α}
    {i : Nat}
    {s : Affine α}
    (h : e.component i = .ok s)
    (x : Assignment α) :
    (e.values x)[i]? = some (s.value x) := by
  unfold component at h
  split at h
  next hi =>
    cases h
    have hrow : i < e.matrix.rows.length := by
      rw [e.matrix_rows]
      exact hi
    simp [values, Affine.value, hi, hrow]
  next => cases h

namespace VectorExpr

/-- The numbers the components stand for at an assignment. -/
def values
    (e : VectorExpr α)
    (x : Assignment α) :
    List α :=
  match e with
  | constant ks => ks
  | vars slots => slots.map fun v => x v.id
  | affine e => e.values x

@[simp] theorem length_values
    (e : VectorExpr α)
    (x : Assignment α) :
    (e.values x).length = e.length := by
  cases e with
  | constant ks => rfl
  | vars slots => simp [values, length]
  | affine e => exact e.length_values x

/-- The value of a component is the value of the vector at its place. -/
theorem getElem?_values
    {e : VectorExpr α}
    {i : Nat}
    {s : ScalarExpr α}
    (h : e.component i = .ok s)
    (x : Assignment α) :
    (e.values x)[i]? = some (s.value x) := by
  rcases component_cases h with
    ⟨ks, k, rfl, hget, rfl⟩ | ⟨slots, v, rfl, hget, rfl⟩ | ⟨a, t, rfl, hcomponent, rfl⟩
  · exact hget
  · simp [values, hget, ScalarExpr.value]
  · exact AffineVector.getElem?_values hcomponent x

/-- The values of a vector are those of its components, in order. -/
theorem values_eq_map
    {e : VectorExpr α}
    {parts : List (ScalarExpr α)}
    (hlength : parts.length = e.length)
    (h : ∀ i (hi : i < parts.length), e.component i = .ok parts[i])
    (x : Assignment α) :
    e.values x = parts.map fun s => s.value x := by
  apply List.ext_getElem?
  intro i
  by_cases hi : i < parts.length
  · rw [getElem?_values (h i hi) x, List.getElem?_map, List.getElem?_eq_getElem hi]
    rfl
  · have hvalues : (e.values x).length ≤ i := by
      rw [length_values, ← hlength]
      omega
    rw [List.getElem?_eq_none hvalues, List.getElem?_map, List.getElem?_eq_none (by omega)]
    rfl

end VectorExpr

end Values

end MathProgram

import MathProgram.Proofs.MixedShapes

/-!
# The operands of sums and comparisons

Addition and comparison are two tables over the kinds of their operands, each with
its own checks of lengths.  They accept the same operands and refuse the others for
the same cause, up to a label that says which of the two was asked for.

**Graph.**  `Expression.IsComparison` has one rule for each way to compare, like
`Expression.IsSum` for the ways to add.  The rules of the two graphs have the same
premises, so that they can be matched one to one.

**Sides.**  A constraint stores its operands.  Beside a vector a constant is stored
as a vector of that constant, as long as the other side.

**Results.**
* `Expression.compare_eq_ok_iff`, `Expression.compare_eq_error_iff`: comparison succeeds
  on its graph, and fails where addition does.
* `Expression.sums_and_comparisons_accept_alike`: the two tables beside each other.
-/

namespace MathProgram

section Operands

variable {α : Type}

/-- What refuses a sum and a comparison of the same operands: only the labels differ. -/
inductive ExprError.Relabels : ExprError → ExprError → Prop
  | lengths
      (expected found : Nat) :
      Relabels
        (.dimensionMismatch .addedLengths expected found)
        (.dimensionMismatch .comparedLengths expected found)
  | kinds
      (lhs rhs : ExprKind) :
      Relabels
        (.unsupportedOperands .plus lhs rhs)
        (.unsupportedOperands .comparison lhs rhs)

namespace VectorConstraint

theorem ofSides_of_length_eq
    {lhs rhs : VectorExpr α}
    (h : lhs.length = rhs.length)
    (sense : Sense) :
    ofSides lhs sense rhs = .ok ⟨lhs, sense, rhs, h⟩ := by
  exact dif_pos h

theorem ofSides_of_length_ne
    {lhs rhs : VectorExpr α}
    (h : lhs.length ≠ rhs.length)
    (sense : Sense) :
    ofSides lhs sense rhs
      =
    .error (.dimensionMismatch .comparedLengths lhs.length rhs.length) := by
  exact dif_neg h

end VectorConstraint

namespace Expression

/-- The comparisons that are defined, and the constraints they give. -/
inductive IsComparison
    (sense : Sense) :
    Expression α → Expression α → Constraint α → Prop
  | scalars
      (a b : ScalarExpr α) :
      IsComparison sense (scalar a) (scalar b) (.scalar ⟨a, sense, b⟩)
  | vectors
      {a b : VectorExpr α}
      (sameLength : a.length = b.length) :
      IsComparison sense (vector a) (vector b) (.vector ⟨a, sense, b, sameLength⟩)
  | constantRight
      (a : VectorExpr α)
      (k : α) :
      IsComparison sense (vector a) (scalar (.constant k))
        (.vector ⟨a, sense, .broadcast k a.length, (VectorExpr.length_broadcast k _).symm⟩)
  | constantLeft
      (k : α)
      (b : VectorExpr α) :
      IsComparison sense (scalar (.constant k)) (vector b)
        (.vector ⟨.broadcast k b.length, sense, b, VectorExpr.length_broadcast k _⟩)

/-- How a side of a vector constraint with `n` components stores its operand. -/
inductive StoredAs
    (n : Nat) :
    Expression α → VectorExpr α → Prop
  | vector
      (e : VectorExpr α) :
      StoredAs n (vector e) e
  | constant
      (k : α) :
      StoredAs n (scalar (.constant k)) (.broadcast k n)

theorem IsComparison.compare_eq
    {sense : Sense}
    {a b : Expression α}
    {c : Constraint α}
    (h : IsComparison sense a b c) :
    a.compare sense b = .ok c := by
  cases h with
  | scalars a b => rfl
  | vectors sameLength =>
    exact congrArg (Except.map Constraint.vector)
      (VectorConstraint.ofSides_of_length_eq sameLength sense)
  | constantRight a k =>
    exact congrArg (Except.map Constraint.vector)
      (VectorConstraint.ofSides_of_length_eq (VectorExpr.length_broadcast k _).symm sense)
  | constantLeft k b =>
    exact congrArg (Except.map Constraint.vector)
      (VectorConstraint.ofSides_of_length_eq (VectorExpr.length_broadcast k _) sense)

variable [Zero α] [One α] [Add α]

/-- Operands that are added can be compared, scalar ones as scalars and others as vectors. -/
theorem IsSum.exists_comparison
    {a b s : Expression α}
    (h : IsSum a b s)
    (sense : Sense) :
    ∃ c, IsComparison sense a b c := by
  cases h with
  | scalars a b => exact ⟨_, .scalars a b⟩
  | vectors sameLength => exact ⟨_, .vectors sameLength⟩
  | constantRight a k => exact ⟨_, .constantRight a k⟩
  | constantLeft k b => exact ⟨_, .constantLeft k b⟩

theorem IsComparison.exists_sum
    {sense : Sense}
    {a b : Expression α}
    {c : Constraint α}
    (h : IsComparison sense a b c) :
    ∃ s, IsSum a b s := by
  cases h with
  | scalars a b => exact ⟨_, .scalars a b⟩
  | vectors sameLength => exact ⟨_, .vectors sameLength⟩
  | constantRight a k => exact ⟨_, .constantRight a k⟩
  | constantLeft k b => exact ⟨_, .constantLeft k b⟩

/-- Operands that addition refuses are refused for the same cause by comparison. -/
theorem exists_compare_eq_error
    {a b : Expression α}
    {cause : ExprError}
    (h : a.add b = .error cause)
    (sense : Sense) :
    ∃ relabelled, a.compare sense b = .error relabelled ∧ cause.Relabels relabelled := by
  rcases add_eq_error_iff.mp h with
    ⟨u, w, rfl, rfl, hlength, rfl⟩ | ⟨⟨u, t, rfl, rfl, hkind⟩ | ⟨t, u, rfl, rfl, hkind⟩, rfl⟩
  · refine ⟨_, ?_, .lengths u.length w.length⟩
    exact congrArg (Except.map Constraint.vector)
      (VectorConstraint.ofSides_of_length_ne hlength sense)
  · refine ⟨_, ?_, .kinds u.kind t.kind⟩
    cases t with
    | constant k => exact absurd rfl hkind
    | _ => rfl
  · refine ⟨_, ?_, .kinds t.kind u.kind⟩
    cases t with
    | constant k => exact absurd rfl hkind
    | _ => rfl

/-- Comparison succeeds exactly on its graph. -/
theorem compare_eq_ok_iff
    {sense : Sense}
    {a b : Expression α}
    {c : Constraint α} :
    a.compare sense b = .ok c ↔ IsComparison sense a b c := by
  constructor
  · intro h
    cases hadd : a.add b with
    | ok s =>
      obtain ⟨d, hd⟩ := (add_eq_ok_iff.mp hadd).exists_comparison sense
      obtain rfl : d = c := Except.ok.inj (hd.compare_eq.symm.trans h)
      exact hd
    | error cause =>
      obtain ⟨_, hcompare, _⟩ := exists_compare_eq_error hadd sense
      cases hcompare.symm.trans h
  · intro h
    exact h.compare_eq

/-- Comparison fails where addition does, and then for the same cause. -/
theorem compare_eq_error_iff
    {sense : Sense}
    {a b : Expression α}
    {relabelled : ExprError} :
    a.compare sense b = .error relabelled
      ↔
    ∃ cause, a.add b = .error cause ∧ cause.Relabels relabelled := by
  constructor
  · intro h
    cases hadd : a.add b with
    | ok s =>
      obtain ⟨c, hc⟩ := (add_eq_ok_iff.mp hadd).exists_comparison sense
      cases hc.compare_eq.symm.trans h
    | error cause =>
      obtain ⟨found, hcompare, hrelabels⟩ := exists_compare_eq_error hadd sense
      cases hcompare.symm.trans h
      exact ⟨cause, rfl, hrelabels⟩
  · rintro ⟨cause, hadd, hrelabels⟩
    obtain ⟨found, hcompare, hfound⟩ := exists_compare_eq_error hadd sense
    rw [hcompare]
    cases hfound <;> cases hrelabels <;> rfl

/-- A sum and a comparison of the same operands have one shape and one length. -/
theorem IsSum.agrees_with_comparison
    {sense : Sense}
    {a b s : Expression α}
    {c : Constraint α}
    (hs : IsSum a b s)
    (hc : IsComparison sense a b c) :
    (∃ l r, a = scalar l ∧ b = scalar r ∧ s = scalar (l.add r) ∧ c = .scalar ⟨l, sense, r⟩)
      ∨
    (∃ e v, s = vector e ∧ c = .vector v ∧ v.sense = sense ∧ v.length = e.length ∧
      StoredAs v.rhs.length a v.lhs ∧ StoredAs v.lhs.length b v.rhs) := by
  cases hc with
  | scalars l r =>
    cases hs
    exact .inl ⟨l, r, rfl, rfl, rfl, rfl⟩
  | @vectors u w sameLength =>
    cases hs
    refine .inr ⟨_, _, rfl, rfl, rfl, ?_, .vector u, .vector w⟩
    exact (VectorExpr.length_sum sameLength).symm
  | constantRight u k =>
    cases hs
    refine .inr ⟨_, _, rfl, rfl, rfl, ?_, .vector u, .constant k⟩
    exact (u.length_shift k).symm
  | constantLeft k w =>
    cases hs
    refine .inr ⟨_, _, rfl, rfl, rfl, ?_, .constant k, .vector w⟩
    exact (VectorExpr.length_broadcast k _).trans (w.length_shift k).symm

/--
Addition and comparison accept the same operands, under every sense.  They refuse
the others for one cause up to its label: with the same lengths, or with the same
two kinds in the same order.  What they give has one shape; a scalar constraint
stores its operands, and a vector constraint has one row per component of the sum and
stores each operand itself or, for a constant, a vector of it as long as the other side.
-/
theorem sums_and_comparisons_accept_alike
    (a b : Expression α)
    (sense : Sense) :
    ((∃ s, a.add b = .ok s) ↔ ∃ c, a.compare sense b = .ok c)
      ∧
    (∀ relabelled, a.compare sense b = .error relabelled
      ↔ ∃ cause, a.add b = .error cause ∧ cause.Relabels relabelled)
      ∧
    ∀ s c, a.add b = .ok s → a.compare sense b = .ok c →
      ((∃ l, c = .scalar l) ↔ ∃ e, s = scalar e) ∧
      (∀ l, c = .scalar l → a = scalar l.lhs ∧ l.sense = sense ∧ b = scalar l.rhs) ∧
      ∀ v, c = .vector v →
        (∃ rows, c.rows = .ok rows ∧ s.length? = some rows.length) ∧
        StoredAs v.rhs.length a v.lhs ∧ v.sense = sense ∧ StoredAs v.lhs.length b v.rhs := by
  refine ⟨?_, fun _ => compare_eq_error_iff, ?_⟩
  · simp only [add_eq_ok_iff, compare_eq_ok_iff]
    constructor
    · rintro ⟨s, hs⟩
      exact hs.exists_comparison sense
    · rintro ⟨c, hc⟩
      exact hc.exists_sum
  · intro s c hs hc
    rcases (add_eq_ok_iff.mp hs).agrees_with_comparison (compare_eq_ok_iff.mp hc) with
      ⟨l, r, rfl, rfl, rfl, rfl⟩ | ⟨e, v, rfl, rfl, hsense, hlength, hlhs, hrhs⟩
    · refine ⟨⟨fun _ => ⟨_, rfl⟩, fun _ => ⟨_, rfl⟩⟩, ?_, ?_⟩
      · rintro _ ⟨⟩
        exact ⟨rfl, rfl, rfl⟩
      · rintro _ ⟨⟩
    · refine ⟨⟨?_, ?_⟩, ?_, ?_⟩
      · rintro ⟨_, ⟨⟩⟩
      · rintro ⟨_, ⟨⟩⟩
      · rintro _ ⟨⟩
      · rintro _ ⟨⟩
        obtain ⟨rows, hrows⟩ := v.exists_components
        refine ⟨⟨rows, hrows, ?_⟩, hlhs, hsense, hrhs⟩
        rw [VectorConstraint.length_of_components hrows, hlength]
        rfl

end Expression

end Operands

end MathProgram

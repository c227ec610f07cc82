import LogSelect.Proofs.Order.Equality

/-!
The laws of the comparison operators.

Operands may be exchanged if the operator is turned round with them.  Of two present values exactly
one of less, equal and greater holds, and the other operators are made of these three.  Between two
numbers, and between two texts that are no numerals, the operators agree with the order of sorting;
a number and another text are compared as texts, so there the two may differ.
-/

namespace LogSelect

theorem swap_compareCodes (s t : List Char) : (compareCodes s t).swap = compareCodes t s := by
  apply Ordering.Compares.inj _ (compareCodes_compares t s)
  exact Ordering.compares_swap.2 (compareCodes_compares s t)

theorem Magnitude.swap_compare (x y : Magnitude) : (x.compare y).swap = y.compare x := by
  cases x with
  | below => cases y <;> rfl
  | above => cases y <;> rfl
  | «at» num den =>
    cases y with
    | below => rfl
    | above => rfl
    | «at» num' den' =>
      simp only [compare]
      rcases lt_trichotomy (num * den') (num' * den) with less | same | greater
      · rw [if_pos less, if_neg less.not_gt, if_neg less.ne', Ordering.swap_lt]
      · rw [same, if_neg (lt_irrefl _), if_pos rfl, Ordering.swap_eq]
      · rw [if_neg greater.not_gt, if_neg greater.ne', if_pos greater, Ordering.swap_gt]

theorem Number.swap_compare (m n : Number) : (m.compare n).swap = n.compare m := by
  unfold compare
  cases m.magnitude? with
  | none => cases n.magnitude? <;> rfl
  | some x =>
    cases n.magnitude? with
    | none => rfl
    | some y => exact x.swap_compare y

namespace CompareOp

theorem holds_flip (op : CompareOp) (order : Ordering) :
    op.flip.holds order.swap = op.holds order := by
  cases op <;> cases order <;> rfl

theorem holds_le (order : Ordering) : le.holds order = (lt.holds order || eq.holds order) := by
  cases order <;> rfl

theorem holds_ge (order : Ordering) : ge.holds order = (gt.holds order || eq.holds order) := by
  cases order <;> rfl

def only : Ordering → CompareOp
  | .lt => lt
  | .eq => eq
  | .gt => gt

theorem holds_iff_only {op : CompareOp} {order : Ordering} :
    op ∈ [lt, eq, gt] ∧ op.holds order = true ↔ op = only order := by
  cases op <;> cases order <;> decide

end CompareOp

/-- Two values that sorting puts in one class: both read as numbers, or both are texts that do
not. -/
inductive Value.SameClass : Value → Value → Prop where
  | numbers {a b} : a.number? ≠ none → b.number? ≠ none → SameClass a b
  | words {s t} : Number.ofText? s = none → Number.ofText? t = none →
      SameClass (.text s) (.text t)

namespace Collation

variable {collation : Collation} {a b : Value}

theorem swap_comparePresent (collation : Collation) (a b : Value) :
    (collation.comparePresent a b).swap = collation.comparePresent b a := by
  unfold comparePresent
  cases a.number? with
  | none => cases b.number? <;> exact swap_compareCodes _ _
  | some m =>
    cases b.number? with
    | none => exact swap_compareCodes _ _
    | some n => exact m.swap_compare n

theorem compare_missing_left (op : CompareOp) (b : Value) :
    collation.compare .missing op b = (op == .ne) := by
  rfl

theorem compare_missing_right (op : CompareOp) (a : Value) :
    collation.compare a op .missing = (op == .ne) := by
  cases a <;> rfl

theorem compare_flip (collation : Collation) (a b : Value) (op : CompareOp) :
    collation.compare a op b = collation.compare b op.flip a := by
  by_cases presentLeft : a = .missing
  · rw [presentLeft, compare_missing_left, compare_missing_right]
    cases op <;> rfl
  by_cases presentRight : b = .missing
  · rw [presentRight, compare_missing_left, compare_missing_right]
    cases op <;> rfl
  rw [compare_of_present presentLeft presentRight, compare_of_present presentRight presentLeft,
    ← swap_comparePresent collation a b, CompareOp.holds_flip]

theorem compare_ne (collation : Collation) (a b : Value) :
    collation.compare a .ne b = !collation.compare a .eq b := by
  by_cases presentLeft : a = .missing
  · rw [presentLeft, compare_missing_left, compare_missing_left]
    rfl
  by_cases presentRight : b = .missing
  · rw [presentRight, compare_missing_right, compare_missing_right]
    rfl
  rw [compare_of_present presentLeft presentRight, compare_of_present presentLeft presentRight]
  rfl

end Collation

theorem Value.SameClass.compare_eq {a b : Value} (same : a.SameClass b) (collation : Collation)
    (op : CompareOp) : collation.compare a op b = op.holds (collation.order a b) := by
  have present : a ≠ .missing ∧ b ≠ .missing ∧ (a.number? = none ↔ b.number? = none) := by
    cases same with
    | numbers isLeft isRight =>
      refine ⟨?_, ?_, iff_of_false isLeft isRight⟩
      · rintro rfl
        exact isLeft rfl
      · rintro rfl
        exact isRight rfl
    | words noLeft noRight => exact ⟨nofun, nofun, iff_of_true noLeft noRight⟩
  obtain ⟨presentLeft, presentRight, alike⟩ := present
  rw [Collation.compare_of_present presentLeft presentRight,
    Collation.order_eq_comparePresent presentLeft presentRight alike]

namespace Collation

/-- The comparison operators under exchange of the operands, among one another, and against the
order of sorting. -/
theorem compare_laws (collation : Collation) :
    (∀ (a b : Value) (op : CompareOp),
        collation.compare a op b = collation.compare b op.flip a) ∧
      (∀ a b : Value, a ≠ .missing → b ≠ .missing →
        (∃! op, op ∈ [CompareOp.lt, .eq, .gt] ∧ collation.compare a op b = true) ∧
          collation.compare a .le b = (collation.compare a .lt b || collation.compare a .eq b) ∧
          collation.compare a .ge b = (collation.compare a .gt b || collation.compare a .eq b)) ∧
      (∀ a b : Value, collation.compare a .ne b = !collation.compare a .eq b) ∧
      ∀ a b : Value, a.SameClass b →
        (collation.compare a .lt b = true ↔ collation.order a b = .lt) ∧
          (collation.compare a .eq b = true ↔ collation.order a b = .eq) ∧
          (collation.compare a .gt b = true ↔ collation.order a b = .gt) := by
  refine ⟨collation.compare_flip, ?_, collation.compare_ne, ?_⟩
  · intro a b presentLeft presentRight
    simp only [compare_of_present presentLeft presentRight, CompareOp.holds_iff_only]
    exact ⟨existsUnique_eq, CompareOp.holds_le _, CompareOp.holds_ge _⟩
  · intro a b same
    simp only [same.compare_eq, CompareOp.holds, beq_iff_eq, and_self]

/-- A whole number next to a floating-point number that it would be rounded to. -/
theorem compare_laws_whole :
    let whole : Value := .number (.int 9007199254740993)
    let real : Value := .text "9007199254740992.0"
    (whole ≠ .missing ∧ real ≠ .missing ∧ whole.SameClass real) ∧
      compare .exact whole .gt real = true ∧ compare .exact real .lt whole = true ∧
      compare .exact whole .ge real = true ∧ compare .exact whole .ne real = true := by
  intro whole real
  have present : whole ≠ .missing ∧ real ≠ .missing := ⟨nofun, nofun⟩
  have same : whole.SameClass real := .numbers (by decide) (by decide +kernel)
  have greater : order .exact whole real = .gt := by decide +kernel
  obtain ⟨flip, trichotomy, negation, sorted⟩ := compare_laws .exact
  obtain ⟨_, equal, isGreater⟩ := sorted whole real same
  have holds := isGreater.2 greater
  have differ : compare .exact whole .eq real = false := by
    rw [← Bool.not_eq_true, equal, greater]
    decide
  refine ⟨⟨present.1, present.2, same⟩, holds, ?_, ?_, ?_⟩
  · rw [flip real whole .lt]
    exact holds
  · rw [(trichotomy whole real present.1 present.2).2.2, holds]
    rfl
  · rw [negation, differ]
    rfl

end Collation

end LogSelect

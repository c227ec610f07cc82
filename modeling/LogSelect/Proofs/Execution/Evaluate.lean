import LogSelect.Proofs.Execution.Reference
import LogSelect.Proofs.Order.Rows
import LogSelect.Proofs.Query.Renderable

/-!
Evaluation of the terms of a query that has a text: operands have their values and predicates hold
or do not, without any fault.
-/

namespace LogSelect

theorem Value.Ensured.number {p : Value → Prop} (ensured : Ensured p) {cs : List Char} {n : Number}
    (spells : Token.NumberText cs n) : p (.number n) := by
  cases spells with
  | @whole _ digits _ all short =>
    have few : (digitValues digits).length ≤ maxWholeDigits := by
      simpa [digitValues] using short
    exact ensured.short ⟨few, digitValues_lt all⟩
  | decimal _ _ _ _ => exact ensured.real _

namespace Term

variable {collation : Collation} {row : Row} {a p : Term}

theorem evaluate_of_isOperand (operand : a.IsOperand) : a.evaluate row = .ok (a.valueIn row) := by
  cases a with
  | column _ | literal _ _ => rfl
  | _ => exact operand.elim

theorem evaluate_eq (operand : a.IsRenderableOperand) : a.evaluate row = .ok (a.valueIn row) :=
  evaluate_of_isOperand operand.isOperand

theorem valueIn_all {q : Value → Prop} (ensured : Value.Ensured q)
    (operand : a.IsRenderableOperand) (all : row.All q) : q (a.valueIn row) := by
  cases a with
  | column name => exact all name
  | literal value spelling =>
    cases value with
    | missing => exact operand.elim
    | text s => exact ensured.text s
    | number n => exact ensured.number operand
  | _ => exact operand.elim

/-- Testing a predicate finds whether it holds, in whatever order its parts are tested. -/
theorem test_eq (predicate : p.IsRenderablePredicate) :
    p.test collation row = .ok (p.holds collation row) := by
  induction p with
  | column _ | literal _ _ | wildcard => exact predicate.elim
  | compare left op right _ _ =>
    obtain ⟨isLeft, isRight⟩ := predicate
    have noWildcard : ¬ (left = .wildcard ∨ right = .wildcard) := by
      simp [isLeft.isOperand.ne_wildcard, isRight.isOperand.ne_wildcard]
    rw [test, testCompare, if_neg noWildcard, evaluate_eq isLeft, evaluate_eq isRight]
    rfl
  | and left right ihLeft ihRight =>
    rw [test, ihLeft predicate.1, ihRight predicate.2, holds]
    cases left.holds collation row <;> rfl
  | or left right ihLeft ihRight =>
    rw [test, ihLeft predicate.1, ihRight predicate.2, holds]
    cases left.holds collation row <;> rfl
  | not operand ih =>
    rw [test, ih predicate, holds]
    rfl

end Term

end LogSelect

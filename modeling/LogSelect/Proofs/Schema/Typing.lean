import LogSelect.Proofs.Order.Comparison
import LogSelect.Proofs.Order.Preorder
import LogSelect.Proofs.Schema.Whole

/-!
Numbers of typed columns and numbers of texts.

A typed column reads a text by rules of its own, and comparison reads a text by others.  Where a
column gives a number, comparison finds the same number in the text.  So a value of a numeric column
stands to every other value as its text would, apart from comparison with what is no number, which
looks at how the number is written.
-/

namespace LogSelect

/-! ## Values alike -/

/-- The same value, or two that read as the same number. -/
def Value.Alike (a b : Value) : Prop :=
  a = b ∨ ∃ n, a.number? = some n ∧ b.number? = some n

namespace Collation

variable {collation : Collation} {a a' b b' : Value} {n : Number}

theorem ne_missing_of_number? (reads : a.number? = some n) : a ≠ .missing := by
  rintro rfl
  cases reads

/-- Sorting knows of a value that reads as a number no more than the number. -/
theorem order_left (reads : a.number? = some n) (reads' : a'.number? = some n)
    (b : Value) : collation.order a b = collation.order a' b := by
  have present := ne_missing_of_number? reads
  have present' := ne_missing_of_number? reads'
  by_cases missing : b = .missing
  · subst missing
    cases a <;> cases a' <;> first | rfl | contradiction
  · rw [order_of_ne_missing present missing, order_of_ne_missing present' missing, reads, reads']
    cases readsRight : b.number? <;> simp [comparePresent, reads, reads', readsRight]

theorem order_right (reads : b.number? = some n) (reads' : b'.number? = some n)
    (a : Value) : collation.order a b = collation.order a b' := by
  have present := ne_missing_of_number? reads
  have present' := ne_missing_of_number? reads'
  by_cases missing : a = .missing
  · subst missing
    cases b <;> cases b' <;> first | rfl | contradiction
  · rw [order_of_ne_missing missing present, order_of_ne_missing missing present', reads, reads']
    cases readsLeft : a.number? <;> simp [comparePresent, reads, reads', readsLeft]

theorem order_congr (left : a.Alike a') (right : b.Alike b') :
    collation.order a b = collation.order a' b' := by
  have first : collation.order a b = collation.order a' b := by
    rcases left with rfl | ⟨n, reads, reads'⟩
    · rfl
    · exact order_left reads reads' b
  rw [first]
  rcases right with rfl | ⟨n, reads, reads'⟩
  · rfl
  · exact order_right reads reads' a'

theorem compare_left (reads : a.number? = some n) (reads' : a'.number? = some n)
    (numeric : b = .missing ∨ b.number? ≠ none) (op : CompareOp) :
    collation.compare a op b = collation.compare a' op b := by
  rcases numeric with rfl | numeric
  · rw [compare_missing_right, compare_missing_right]
  · obtain ⟨m, readsRight⟩ := Option.ne_none_iff_exists'.1 numeric
    have presentRight := ne_missing_of_number? readsRight
    rw [compare_of_present (ne_missing_of_number? reads) presentRight,
      compare_of_present (ne_missing_of_number? reads') presentRight]
    simp only [comparePresent, reads, reads', readsRight]

end Collation

/-! ## Numbers in texts -/

theorem WholeText.ofText? {text : String} {size : Nat} {n : Int}
    (whole : WholeText text.toList size n) (short : size ≤ maxWholeDigits) :
    Number.ofText? text = some (.int n) := by
  rw [Number.ofText?]
  generalize text.toList = cs at whole
  cases whole with
  | @digits sign digits negative isSign nonempty all =>
    have first : ∀ d ∈ digits.head?, d.isDigit = true :=
      fun d front => all d (List.mem_of_mem_head? front)
    have read : Numeral.read? (sign ++ digits) =
        some ⟨negative, digitValues digits, none, none⟩ := by
      simp [Numeral.read?, isSign.takeSign first, Numeral.takeDigits_of_isDigit all, digitValues,
        nonempty, Numeral.takeFraction, Numeral.readExponent?]
    rw [read, Option.map_some, Numeral.value, Numeral.isWhole, length_digitValues,
      wholeValue_digits]
    simp [short]

namespace ColumnType

def isNumeric : ColumnType → Bool
  | .i32 | .i64 | .float | .double => true
  | _ => false

end ColumnType

namespace Column

variable {column : Column} {text : String} {v : Value}

theorem toList_of_stripText (stripped : stripText text = text) :
    strip text.toList = text.toList := by
  rw [← String.toList_ofList (l := strip text.toList)]
  exact congrArg String.toList stripped

theorem number?_of_convertWhole {bits : Nat} (stripped : stripText text = text)
    (converts : column.convertWhole bits text = .ok v) :
    ∃ n, v = .number n ∧ Number.ofText? text = some n := by
  unfold convertWhole at converts
  rw [toList_of_stripText stripped] at converts
  split at converts
  · cases converts
  next numeral read =>
    split at converts
    · cases converts
    next short =>
      split at converts
      · cases converts
        exact ⟨_, rfl, (WholeText.of_wholeNumeral? read).ofText? (Nat.not_lt.1 short)⟩
      · cases converts

/-- The number that a numeric column gives is the one that its text reads as. -/
theorem number?_of_convert (numeric : column.type.isNumeric = true)
    (stripped : stripText text = text) (converts : column.convert text = .ok v) :
    ∃ n, v.number? = some n ∧ Number.ofText? text = some n := by
  cases type : column.type with
  | i32 | i64 =>
    rw [convert, type] at converts
    obtain ⟨n, rfl, reads⟩ := number?_of_convertWhole stripped converts
    exact ⟨n, rfl, reads⟩
  | float | double =>
    rw [convert, type, stripped] at converts
    cases reads : Number.ofText? text with
    | none =>
      rw [reads] at converts
      cases converts
    | some n =>
      rw [reads] at converts
      cases converts
      exact ⟨n, rfl, rfl⟩
  | _ =>
    rw [type] at numeric
    cases numeric

end Column

end LogSelect

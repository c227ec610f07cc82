import Mathlib.Algebra.Order.Ring.Int
import LogSelect.Proofs.Number.Text
import LogSelect.Proofs.Token.Lexeme
import LogSelect.Query.Render

/-!
The parts of a rendered query that are single tokens: reserved words, operators, names, text
constants and counts.  Each is a lexeme of the token it stands for.
-/

namespace LogSelect

open Token

theorem exists_word_of_isPlainName {cs : List Char} (plain : isPlainName cs = true) :
    ∃ c more, cs = c :: more ∧ startsWord c = true ∧ ∀ d ∈ more, continuesWord d = true := by
  cases cs with
  | nil => cases plain
  | cons c more =>
    simp only [isPlainName, List.all_cons, Bool.and_eq_true, List.all_eq_true] at plain
    exact ⟨c, more, rfl, plain.1, plain.2.2⟩

theorem Keyword.lexeme (keyword : Keyword) : Lexeme (.keyword keyword) keyword.spelling.toList := by
  have reads : wordBody keyword.spelling.toList = .keyword keyword := by
    cases keyword <;> decide +kernel
  have plain : isPlainName keyword.spelling.toList = true := by
    cases keyword <;> decide +kernel
  obtain ⟨c, more, split, starts, continues⟩ := exists_word_of_isPlainName plain
  rw [← reads, split]
  exact .word starts continues

theorem CompareOp.lexeme (op : CompareOp) : Lexeme (.op op) op.symbol.toList := by
  cases op with
  | eq => exact .sign rfl
  | ne => exact .pair (c := '!') rfl
  | lt => exact .sign rfl
  | gt => exact .sign rfl
  | le => exact .pair (c := '<') rfl
  | ge => exact .pair (c := '>') rfl

/-! ## Text constants -/

theorem textInside_escape (content : List Char) :
    TextInside '\'' (content.flatMap escapeTextChar) content := by
  induction content with
  | nil => exact .nil
  | cons c content ih =>
    have noQuote : '\'' ≠ '\\' := by decide
    rw [List.flatMap_cons]
    unfold escapeTextChar
    split
    · exact .escaped noQuote ih
    · exact .doubled ih
    · exact .escaped noQuote ih
    · exact .escaped noQuote ih
    · exact .escaped noQuote ih
    · rename_i notBackslash notQuote _ _ _
      exact .plain notQuote notBackslash ih

/-- A quoted text is the lexeme of its content. -/
theorem lexeme_quoteText (s : String) : Lexeme (.text s) (quoteText s.toList) := by
  have lexeme := Lexeme.text (.inl rfl) (textInside_escape s.toList)
  rwa [String.ofList_toList] at lexeme

/-! ## Names -/

def IsQuotable (name : String) : Prop :=
  name.toList ≠ [] ∧ backQuote ∉ name.toList

instance (name : String) : Decidable (IsQuotable name) :=
  inferInstanceAs (Decidable (_ ∧ _))

theorem lexeme_renderName {name : String} (quotable : IsQuotable name) :
    Lexeme (.name name) (renderName name).toList := by
  simp only [renderName]
  split
  · have lexeme := Lexeme.quoted quotable.1 quotable.2
    rwa [String.ofList_toList, ← String.toList_ofList (l := _ :: _)] at lexeme
  · rename_i unquoted
    simp only [Bool.or_eq_true, Bool.not_eq_true', not_or, Bool.not_eq_true,
      Option.isSome_eq_false_iff, Option.isNone_iff_eq_none, Bool.not_eq_false] at unquoted
    obtain ⟨noKeyword, plain⟩ := unquoted
    have reads : wordBody name.toList = .name name := by
      simp only [wordBody, noKeyword, String.ofList_toList]
    obtain ⟨c, more, split, starts, continues⟩ := exists_word_of_isPlainName plain
    rw [← reads, split]
    exact .word starts continues

/-! ## Counts -/

/-- A number of rows that can be written as a whole number. -/
def IsCount (n : Int) : Prop :=
  0 ≤ n ∧ n < 10 ^ maxWholeDigits

theorem numberText_int {n : Int} (below : n.natAbs < 10 ^ maxWholeDigits) :
    NumberText (toString n).toList (.int n) := by
  have spells := @NumberText.whole (decide (n < 0)) _ Nat.toDigits_ne_nil
    (fun _ member => isAsciiDigit_of_isDigit
      (Nat.isDigit_of_mem_toDigits (by decide) (by decide) member))
    ((Nat.length_toDigits_le_iff (by decide) (by decide)).2 below)
  have value : Numeral.wholeValue
      ⟨decide (n < 0), digitValues (Nat.toDigits 10 n.natAbs), none, none⟩ = n := by
    simp only [Numeral.wholeValue, ofDigits_digitValues, Nat.ofDigitChars_ten_toDigits,
      decide_eq_true_eq]
    split <;> omega
  rw [value] at spells
  rw [toList_toString_int]
  exact spells

theorem lexeme_count {n : Int} (count : IsCount n) :
    Lexeme (.number (.int n)) (toString n).toList := by
  obtain ⟨nonneg, below⟩ := count
  obtain ⟨m, rfl⟩ := Int.eq_ofNat_of_zero_le nonneg
  exact .number (numberText_int (by exact_mod_cast below))

end LogSelect

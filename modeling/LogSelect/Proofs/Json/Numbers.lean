import LogSelect.Json.Write
import LogSelect.Proofs.Json.Grammar
import LogSelect.Proofs.Number.ReadBack
import LogSelect.Proofs.Number.Text

/-!
The text of a finite number is a JSON numeral of the same number.

A whole number is its digits.  The digits of a floating-point number denote it, and the layout keeps
their places: as a numeral with a fraction, with an exponent, or with both.
-/

namespace LogSelect

open Binary64

namespace Json

variable {c m : ℕ} {q top : ℤ} {digits : List Char}

/-! ## Digits -/

theorem areDigits_decimalDigits (c : ℕ) : AreDigits (decimalDigits c) :=
  ⟨Nat.toDigits_ne_nil, fun _ member =>
    isAsciiDigit_of_isDigit (Nat.isDigit_of_mem_toDigits (by decide) (by decide) member)⟩

theorem head?_decimalDigits (nonzero : c ≠ 0) : (decimalDigits c).head? ≠ some '0' := by
  induction c using Nat.strongRecOn with
  | ind c ih =>
    unfold decimalDigits at ih ⊢
    by_cases single : c < 10
    · have others : ∀ d : Fin 10, d ≠ 0 → d.val.digitChar ≠ '0' := by decide
      rw [Nat.toDigits_of_lt_base single]
      simpa using others ⟨c, single⟩ (by simpa [Fin.ext_iff] using nonzero)
    · rw [Nat.toDigits_of_base_le (by decide) (not_lt.1 single),
        List.head?_append_of_ne_nil _ Nat.toDigits_ne_nil]
      exact ih (c / 10) (by omega) (by omega)

theorem isWhole_decimalDigits (c : ℕ) : IsWhole (decimalDigits c) := by
  by_cases zero : c = 0
  · subst zero
    exact .zero
  · exact .digits (areDigits_decimalDigits c) (head?_decimalDigits zero)

/-! ## Layouts -/

/-- The numerals of a floating-point number by its digits and the exponent of the first of them. -/
def IsReal (negative : Bool) (digits : List Char) (top : ℤ) (cs : List Char) : Prop :=
  ∃ numeral, IsNumeral ((if negative then ['-'] else []) ++ cs) numeral ∧
    (numeral.fraction.isSome || numeral.exponent.isSome) = true ∧
    numeral.realValue =
      ofDecimal negative (Nat.ofDigitChars 10 digits 0) (top - digits.length + 1)

theorem isReal_positional (areDigits : AreDigits digits) (noZero : digits.head? ≠ some '0')
    (negative : Bool) : IsReal negative digits top (positional digits top) := by
  obtain ⟨whole, fraction, layout, someFraction, isWhole, chars, value⟩ :=
    exists_positional areDigits.1 top
  have areAll : ∀ c ∈ whole ++ fraction, isAsciiDigit c = true := by
    intro c member
    rcases chars c member with rfl | member
    · rfl
    · exact areDigits.2 c member
  obtain ⟨areWhole, areFraction⟩ := List.forall_mem_append.1 areAll
  have wholePart : IsWhole whole := by
    rcases isWhole with rfl | ⟨nonempty, sameHead⟩
    · exact .zero
    · exact .digits ⟨nonempty, areWhole⟩ (sameHead ▸ noZero)
  have isNumeral := IsNumeral.intro negative wholePart (.point ⟨someFraction, areFraction⟩) .nothing
  rw [List.append_nil, ← layout] at isNumeral
  exact ⟨_, isNumeral, rfl, (realValue_digits negative whole fraction).trans (value negative)⟩

theorem isExponent_scientific (top : ℤ) :
    ∃ values, ofDigits values = top.natAbs ∧
      IsExponent ('e' :: (if top < 0 then '-' else '+') ::
        (List.replicate (2 - (decimalDigits top.natAbs).length) '0' ++ decimalDigits top.natAbs))
        (some (decide (top < 0), values)) := by
  have areDigits := areDigits_decimalDigits top.natAbs
  have areAll : AreDigits (List.replicate (2 - (decimalDigits top.natAbs).length) '0' ++
      decimalDigits top.natAbs) := by
    refine ⟨by simp [areDigits.1], List.forall_mem_append.2 ⟨fun c member => ?_, areDigits.2⟩⟩
    rw [List.eq_of_mem_replicate member]
    rfl
  refine ⟨digitValues (List.replicate (2 - (decimalDigits top.natAbs).length) '0' ++
    decimalDigits top.natAbs), ?_, ?_⟩
  · rw [ofDigits_digitValues, Nat.ofDigitChars_append, ofDigitChars_zeros, zero_mul]
    exact Nat.ofDigitChars_ten_toDigits
  · by_cases below : top < 0
    · rw [if_pos below, decide_eq_true below]
      exact .power (.inl rfl) .minus areAll
    · rw [if_neg below, decide_eq_false below]
      exact .power (.inl rfl) .plus areAll

theorem realValue_power (negative : Bool) (whole : List ℕ) (fraction : Option (List ℕ))
    {values : List ℕ} (isPower : ofDigits values = top.natAbs) :
    Numeral.realValue ⟨negative, whole, fraction, some (decide (top < 0), values)⟩ =
      ofDecimal negative (ofDigits (whole ++ fraction.getD []))
        (top - (fraction.getD []).length) := by
  unfold Numeral.realValue
  by_cases below : top < 0
  · simp only [below, decide_true, isPower]
    congr 2
    omega
  · simp only [below, decide_false, isPower]
    congr 2
    omega

theorem isReal_scientific (areDigits : AreDigits digits) (noZero : digits.head? ≠ some '0')
    (negative : Bool) : IsReal negative digits top (scientific digits top) := by
  obtain ⟨values, isPower, isExponent⟩ := isExponent_scientific top
  obtain ⟨d, more, rfl⟩ := List.exists_cons_of_ne_nil areDigits.1
  obtain ⟨isDigit, areMore⟩ := List.forall_mem_cons.1 areDigits.2
  have wholePart : IsWhole [d] := .digits ⟨by simp, by simpa using isDigit⟩ (by simpa using noZero)
  cases more with
  | nil =>
    refine ⟨_, .intro negative wholePart .nothing isExponent, rfl, ?_⟩
    rw [realValue_power negative _ _ isPower, Option.getD_none, List.append_nil,
      ofDigits_digitValues]
    congr 1
    simp
  | cons d' more =>
    refine ⟨_, .intro negative wholePart (.point ⟨by simp, areMore⟩) isExponent, rfl, ?_⟩
    have values : digitValues [d] ++ digitValues (d' :: more) = digitValues (d :: d' :: more) := rfl
    rw [realValue_power negative _ _ isPower, Option.getD_some, values, ofDigits_digitValues]
    congr 1
    simp only [length_digitValues, List.length_cons]
    push_cast
    ring

theorem isReal_layout (areDigits : AreDigits digits) (noZero : digits.head? ≠ some '0')
    (negative : Bool) (top : ℤ) : IsReal negative digits top (layout digits top) := by
  unfold layout
  split
  · exact isReal_positional areDigits noZero negative
  · exact isReal_scientific areDigits noZero negative

theorem areDigits_places {d : Decimal} (nonzero : d.coefficient ≠ 0) : AreDigits d.places.1 := by
  obtain ⟨zeros, split⟩ := exists_decimalDigits_eq d
  refine ⟨places_ne_nil nonzero, fun c member => ?_⟩
  exact (areDigits_decimalDigits d.coefficient).2 c (split ▸ List.mem_append_left _ member)

theorem head?_places {d : Decimal} (nonzero : d.coefficient ≠ 0) :
    d.places.1.head? ≠ some '0' := by
  obtain ⟨zeros, split⟩ := exists_decimalDigits_eq d
  rw [← List.head?_append_of_ne_nil _ (places_ne_nil nonzero), ← split]
  exact head?_decimalDigits nonzero

/-! ## Numbers -/

/-- The text of a floating-point number is a numeral of it, and not the one of a whole number. -/
theorem exists_numeral_chars (negative : Bool) (canonical : IsCanonical m q) :
    ∃ numeral, IsNumeral (chars (.finite negative m q canonical)) numeral ∧
      (numeral.fraction.isSome || numeral.exponent.isSome) = true ∧
      numeral.realValue = .finite negative m q canonical := by
  by_cases zero : m = 0
  · subst zero
    obtain rfl : q = -1074 := canonical.2.2.2.resolve_left (by decide)
    have areDigits : AreDigits ['0'] := IsWhole.zero.areDigits
    have isNumeral := IsNumeral.intro negative .zero (.point areDigits) .nothing
    exact ⟨_, isNumeral, rfl, rfl⟩
  · have nonzero := shortest_ne_zero zero q
    obtain ⟨numeral, isNumeral, isReal, value⟩ := isReal_layout (areDigits_places nonzero)
      (head?_places nonzero) negative (shortest m q).places.2
    refine ⟨numeral, ?_, isReal, ?_⟩
    · simpa only [chars, zero, if_false] using isNumeral
    · rw [value, ofDecimal_places]
      exact ofDecimal_shortest canonical (Nat.pos_of_ne_zero zero) negative

theorem exists_numeral_int (n : ℤ) :
    ∃ numeral, IsNumeral (toString n).toList numeral ∧ numberOf numeral = .int n ∧
      (n.natAbs < 10 ^ maxWholeDigits → ¬ IsLong numeral) := by
  have isNumeral := IsNumeral.intro (decide (n < 0)) (isWhole_decimalDigits n.natAbs) .nothing
    .nothing
  rw [List.append_nil, List.append_nil, ← toList_toString_int] at isNumeral
  refine ⟨_, isNumeral, ?_, fun below isLong => ?_⟩
  · have value : ofDigits (digitValues (decimalDigits n.natAbs)) = n.natAbs :=
      (ofDigits_digitValues _).trans Nat.ofDigitChars_ten_toDigits
    simp only [numberOf, Option.isSome_none, Bool.or_self, Bool.false_eq_true, if_false,
      Numeral.wholeValue, value, decide_eq_true_eq]
    split <;> congr 1 <;> omega
  · have short := (Nat.length_toDigits_le_iff (by decide) (by decide)).2 below
    have long := isLong.1
    rw [length_digitValues] at long
    exact absurd short (not_le.2 long)

end Json

namespace Number

def IsFinite (n : Number) : Prop :=
  n ≠ .real .nan ∧ ∀ negative, n ≠ .real (.infinite negative)

instance (n : Number) : Decidable n.IsFinite :=
  inferInstanceAs (Decidable (_ ∧ _))

end Number

theorem Datum.isCitable_int {n : ℤ} :
    (number (.int n)).isCitable = true ↔ n.natAbs < 10 ^ maxWholeDigits := by
  simp only [isCitable, decide_eq_true_eq, Nat.pow_eq]

theorem Json.exists_numeral {n : Number} (finite : n.IsFinite) :
    ∃ numeral, IsNumeral (numberText n).toList numeral ∧ numberOf numeral = n ∧
      ((Datum.number n).isCitable = true → ¬ IsLong numeral) := by
  cases n with
  | int n =>
    obtain ⟨numeral, isNumeral, value, short⟩ := exists_numeral_int n
    exact ⟨numeral, isNumeral, value, fun citable => short (Datum.isCitable_int.1 citable)⟩
  | real x =>
    cases x with
    | nan => exact absurd rfl finite.1
    | infinite negative => exact absurd rfl (finite.2 negative)
    | finite negative significand exponent canonical =>
      obtain ⟨numeral, isNumeral, isReal, value⟩ := exists_numeral_chars negative canonical
      refine ⟨numeral, ?_, ?_, fun _ isLong => ?_⟩
      · simpa only [numberText, Number.text, Binary64.text, String.toList_ofList] using isNumeral
      · rw [numberOf, if_pos isReal, value]
      · simp [isLong.2.1, isLong.2.2] at isReal

end LogSelect

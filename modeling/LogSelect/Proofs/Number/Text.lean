import Mathlib.Algebra.Group.Nat.Defs
import Mathlib.Data.List.DropRight
import LogSelect.Number.Numeral
import LogSelect.Proofs.Text.Stretch

/-!
The text of every number but the infinite ones is a numeral.

A text is a sign and digits with an optional fraction and exponent.  Each part is read whole, as the
next one begins with what cannot continue it.
-/

namespace LogSelect

theorem digitValue?_of_isDigit {c : Char} (digit : c.isDigit = true) :
    digitValue? c = some (c.toNat - '0'.toNat) := by
  simp only [Char.isDigit, ge_iff_le, Bool.and_eq_true, decide_eq_true_eq,
    UInt32.le_iff_toNat_le] at digit
  have range : 48 ≤ c.toNat ∧ c.toNat < 58 := ⟨digit.1, Nat.lt_succ_of_le digit.2⟩
  simp [digitValue?, digitZeros, range]

theorem isDigit_of_charIsDigit {c : Char} (digit : c.isDigit = true) : isDigit c = true := by
  rw [isDigit, digitValue?_of_isDigit digit, Option.isSome_some]

theorem isDigit_zero : isDigit '0' = true :=
  isDigit_of_charIsDigit (by decide)

theorem isDigit_mark {mark : Char} (member : mark ∈ ['+', '-', '.', 'e']) :
    isDigit mark = false := by
  have none : ['+', '-', '.', 'e'].any isDigit = false := by decide +kernel
  exact Bool.eq_false_iff.2 (List.any_eq_false.1 none mark member)

theorem isAsciiDigit_eq (c : Char) : isAsciiDigit c = c.isDigit := by
  simp [isAsciiDigit, Char.isDigit, Char.le_def]

theorem isAsciiDigit_of_isDigit {c : Char} (digit : c.isDigit = true) : isAsciiDigit c = true :=
  (isAsciiDigit_eq c).trans digit

theorem ofDigits_digitValues (digits : List Char) :
    ofDigits (digitValues digits) = Nat.ofDigitChars 10 digits 0 := by
  rw [Nat.ofDigitChars_eq_foldl, ofDigits, digitValues, List.foldl_map]
  simp only [Nat.mul_comm]

namespace Numeral

/-! ## Reading the parts -/

inductive IsFraction : List Char → Prop where
  | nothing : IsFraction []
  | point (ds : List Char) : (∀ d ∈ ds, isDigit d = true) → IsFraction ('.' :: ds)

inductive IsExponent : List Char → Prop where
  | nothing : IsExponent []
  | signed {sign : Char} {ds : List Char} : sign = '+' ∨ sign = '-' → ds ≠ [] →
      (∀ d ∈ ds, isDigit d = true) → IsExponent ('e' :: sign :: ds)

inductive IsUnsigned : List Char → Prop where
  | parts (whole : List Char) {fraction exponent : List Char} : whole ≠ [] →
      (∀ d ∈ whole, isDigit d = true) → IsFraction fraction → IsExponent exponent →
      IsUnsigned (whole ++ (fraction ++ exponent))

variable {whole fraction exponent ds rest : List Char}

theorem takeSign_cons (c : Char) (cs : List Char) :
    takeSign (c :: cs) =
      if c = '+' then (false, cs) else if c = '-' then (true, cs) else (false, c :: cs) := by
  unfold takeSign
  split <;> simp_all

theorem takeFraction_cons (c : Char) (cs : List Char) :
    takeFraction (c :: cs) =
      if c = '.' then (some (takeDigits cs).1, (takeDigits cs).2) else (none, c :: cs) := by
  unfold takeFraction
  split <;> simp_all

theorem takeDigits_append (digits : ∀ d ∈ ds, isDigit d = true)
    (stops : ∀ c ∈ rest.head?, isDigit c = false) :
    ∃ values, takeDigits (ds ++ rest) = (values, rest) ∧ values.length = ds.length := by
  induction ds with
  | nil =>
    refine ⟨[], ?_, rfl⟩
    cases rest with
    | nil => rfl
    | cons c rest =>
      have noDigit : digitValue? c = none := by simpa [isDigit] using stops
      simp [takeDigits, noDigit]
  | cons d ds ih =>
    obtain ⟨isFirst, others⟩ := List.forall_mem_cons.1 digits
    obtain ⟨values, taken, length⟩ := ih others
    obtain ⟨value, isValue⟩ := Option.isSome_iff_exists.1 isFirst
    exact ⟨value :: values, by simp [takeDigits, isValue, taken], by simp [length]⟩

theorem takeDigits_of_isDigit (all : ∀ d ∈ ds, d.isDigit = true) :
    takeDigits ds = (digitValues ds, []) := by
  induction ds with
  | nil => rfl
  | cons d ds ih =>
    obtain ⟨first, others⟩ := List.forall_mem_cons.1 all
    rw [takeDigits, digitValue?_of_isDigit first, ih others]
    rfl

theorem IsExponent.stops (isExponent : IsExponent exponent) :
    ∀ c ∈ exponent.head?, isDigit c = false := by
  cases isExponent with
  | nothing => simp
  | signed =>
    have notDigit : isDigit 'e' = false := isDigit_mark (by decide)
    simpa using notDigit

theorem IsExponent.head?_ne (isExponent : IsExponent exponent) : exponent.head? ≠ some '.' := by
  cases isExponent with
  | nothing => simp
  | signed => simp

theorem stops_fraction (isFraction : IsFraction fraction) (isExponent : IsExponent exponent) :
    ∀ c ∈ (fraction ++ exponent).head?, isDigit c = false := by
  cases isFraction with
  | nothing => exact isExponent.stops
  | point =>
    have notDigit : isDigit '.' = false := isDigit_mark (by decide)
    simpa using notDigit

theorem takeFraction_append (isFraction : IsFraction fraction) (isExponent : IsExponent exponent) :
    ∃ digits, takeFraction (fraction ++ exponent) = (digits, exponent) := by
  cases isFraction with
  | nothing =>
    refine ⟨none, ?_⟩
    cases exponent with
    | nil => rfl
    | cons e exponent =>
      have noPoint : e ≠ '.' := by simpa using isExponent.head?_ne
      rw [List.nil_append, takeFraction_cons, if_neg noPoint]
  | point ds digits =>
    obtain ⟨values, taken, _⟩ := takeDigits_append digits isExponent.stops
    exact ⟨some values, by simp [takeFraction, taken]⟩

theorem takeSign_signed {sign : Char} (isSign : sign = '+' ∨ sign = '-') :
    takeSign (sign :: rest) = (sign == '-', rest) := by
  rcases isSign with plus | minus
  · rw [plus]
    rfl
  · rw [minus]
    rfl

theorem readExponent?_isSome (isExponent : IsExponent exponent) :
    (readExponent? exponent).isSome = true := by
  cases isExponent with
  | nothing => rfl
  | @signed sign ds isSign nonempty digits =>
    obtain ⟨values, taken, length⟩ := takeDigits_append digits IsExponent.nothing.stops
    rw [List.append_nil] at taken
    cases values with
    | nil => exact absurd (List.eq_nil_of_length_eq_zero length.symm) nonempty
    | cons value values => simp [readExponent?, takeSign_signed isSign, taken]

theorem takeSign_digit {d : Char} (digit : isDigit d = true) :
    takeSign (d :: rest) = (false, d :: rest) := by
  have noMark : ∀ mark ∈ ['+', '-', '.', 'e'], d ≠ mark := by
    rintro mark member rfl
    rw [isDigit_mark member] at digit
    cases digit
  rw [takeSign_cons, if_neg (noMark '+' (by decide)), if_neg (noMark '-' (by decide))]

theorem read?_isSome {cs : List Char} (negative : Bool) (isUnsigned : IsUnsigned cs) :
    (read? ((if negative then ['-'] else []) ++ cs)).isSome = true := by
  cases isUnsigned with
  | @parts whole fraction exponent nonempty digits isFraction isExponent =>
    obtain ⟨values, taken, length⟩ :=
      takeDigits_append digits (stops_fraction isFraction isExponent)
    obtain ⟨behind, takenFraction⟩ := takeFraction_append isFraction isExponent
    have sign : takeSign ((if negative then ['-'] else []) ++ (whole ++ (fraction ++ exponent))) =
        (negative, whole ++ (fraction ++ exponent)) := by
      cases negative with
      | false =>
        obtain ⟨d, more, split⟩ := List.exists_cons_of_ne_nil nonempty
        rw [split]
        exact takeSign_digit (digits d (split ▸ List.mem_cons_self))
      | true => rfl
    have notEmpty : values.isEmpty = false := by
      cases values with
      | nil => exact absurd (List.eq_nil_of_length_eq_zero length.symm) nonempty
      | cons value values => rfl
    simp [read?, sign, taken, takenFraction, notEmpty, readExponent?_isSome isExponent]

end Numeral

/-! ## Texts of whole numbers -/

theorem isDigit_of_mem_decimalDigits {n : Nat} {c : Char} (member : c ∈ Binary64.decimalDigits n) :
    isDigit c = true :=
  isDigit_of_charIsDigit (Nat.isDigit_of_mem_toDigits (by decide) (by decide) member)

theorem isUnsigned_decimalDigits (n : Nat) : Numeral.IsUnsigned (Binary64.decimalDigits n) := by
  have parts := Numeral.IsUnsigned.parts (Binary64.decimalDigits n) Nat.toDigits_ne_nil
    (fun d member => isDigit_of_mem_decimalDigits (n := n) member) .nothing .nothing
  rwa [List.append_nil, List.append_nil] at parts

theorem toList_toString_int (n : Int) :
    (toString n).toList =
      (if decide (n < 0) then ['-'] else []) ++ Binary64.decimalDigits n.natAbs := by
  cases n with
  | ofNat m =>
    have text : toString (Int.ofNat m) = m.repr := rfl
    rw [text, Nat.toList_repr]
    simp [Binary64.decimalDigits]
  | negSucc m =>
    have text : toString (Int.negSucc m) = "-" ++ (m + 1).repr := rfl
    simp [text, Binary64.decimalDigits, Int.negSucc_lt_zero]

/-! ## Texts of floating-point numbers -/

namespace Binary64

variable {digits : List Char} {exponent : Int}

theorem isUnsigned_positional (nonempty : digits ≠ [])
    (all : ∀ d ∈ digits, isDigit d = true) : Numeral.IsUnsigned (positional digits exponent) := by
  have zeros : ∀ n, ∀ d ∈ List.replicate n '0', isDigit d = true :=
    fun n d member => (List.eq_of_mem_replicate member) ▸ isDigit_zero
  unfold positional
  split
  · have parts := Numeral.IsUnsigned.parts ['0'] (by simp) (by simpa using isDigit_zero)
      (.point _ (List.forall_mem_append.2 ⟨zeros (-exponent - 1).toNat, all⟩)) .nothing
    rwa [List.append_nil] at parts
  · simp only
    split
    · have parts := Numeral.IsUnsigned.parts
        (digits ++ List.replicate (exponent.toNat + 1 - digits.length) '0')
        (by simp [nonempty]) (List.forall_mem_append.2 ⟨all, zeros _⟩)
        (.point ['0'] (by simpa using isDigit_zero)) .nothing
      rwa [List.append_nil] at parts
    · have parts := Numeral.IsUnsigned.parts (digits.take (exponent.toNat + 1))
        (by simp [nonempty]) (fun d member => all d (List.mem_of_mem_take member))
        (.point (digits.drop (exponent.toNat + 1))
          fun d member => all d (List.mem_of_mem_drop member)) .nothing
      rwa [List.append_nil] at parts

theorem isUnsigned_scientific (nonempty : digits ≠ [])
    (all : ∀ d ∈ digits, isDigit d = true) : Numeral.IsUnsigned (scientific digits exponent) := by
  have isExponent : Numeral.IsExponent ('e' :: (if exponent < 0 then '-' else '+') ::
      (List.replicate (2 - (decimalDigits exponent.natAbs).length) '0' ++
        decimalDigits exponent.natAbs)) := by
    refine .signed ?_ ?_ (List.forall_mem_append.2 ⟨?_, ?_⟩)
    · split
      · exact .inr rfl
      · exact .inl rfl
    · simp [decimalDigits]
    · intro d member
      exact List.eq_of_mem_replicate member ▸ isDigit_zero
    · intro d member
      exact isDigit_of_mem_decimalDigits member
  cases digits with
  | nil => exact absurd rfl nonempty
  | cons d rest =>
    obtain ⟨first, others⟩ := List.forall_mem_cons.1 all
    cases rest with
    | nil => exact .parts [d] (by simp) (by simpa using first) .nothing isExponent
    | cons d' rest =>
      exact .parts [d] (by simp) (by simpa using first) (.point _ others) isExponent

theorem isUnsigned_layout (nonempty : digits ≠ []) (all : ∀ d ∈ digits, isDigit d = true) :
    Numeral.IsUnsigned (layout digits exponent) := by
  unfold layout
  split
  · exact isUnsigned_positional nonempty all
  · exact isUnsigned_scientific nonempty all

theorem isDigit_of_mem_places {d : Decimal} {c : Char} (member : c ∈ d.places.1) :
    isDigit c = true := by
  have kept := (List.dropWhile_suffix _).subset (List.mem_reverse.1 member)
  exact isDigit_of_mem_decimalDigits (List.mem_reverse.1 kept)

theorem ofDigitChars_zeros (k value : Nat) :
    Nat.ofDigitChars 10 (List.replicate k '0') value = value * 10 ^ k := by
  induction k generalizing value with
  | zero => simp
  | succ k ih =>
    rw [List.replicate_succ, Nat.ofDigitChars_cons, ih, Nat.pow_succ']
    simp [Nat.mul_left_comm, Nat.mul_assoc]

theorem exists_decimalDigits_eq (d : Decimal) :
    ∃ zeros, decimalDigits d.coefficient = d.places.1 ++ List.replicate zeros '0' := by
  have parts := List.takeWhile_append_dropWhile (p := (· == '0'))
    (l := (decimalDigits d.coefficient).reverse)
  have zeros := List.eq_replicate_of_mem fun c
    (member : c ∈ (decimalDigits d.coefficient).reverse.takeWhile (· == '0')) =>
      beq_iff_eq.1 (List.mem_takeWhile_imp (p := (· == '0')) member)
  refine ⟨((decimalDigits d.coefficient).reverse.takeWhile (· == '0')).length, ?_⟩
  rw [← List.reverse_inj, Decimal.places, List.reverse_append, List.reverse_reverse,
    List.reverse_replicate, ← zeros]
  exact parts.symm

theorem places_ne_nil {d : Decimal} (nonzero : d.coefficient ≠ 0) : d.places.1 ≠ [] := by
  intro empty
  obtain ⟨zeros, split⟩ := exists_decimalDigits_eq d
  have value := Nat.ofDigitChars_ten_toDigits (n := d.coefficient)
  rw [show Nat.toDigits 10 d.coefficient = _ from split, empty, List.nil_append,
    ofDigitChars_zeros, Nat.zero_mul] at value
  exact nonzero value.symm

theorem pack_ne_signedZero {significand : Nat} (nonzero : significand ≠ 0) (exponent : Int) :
    pack false significand exponent ≠ signedZero false := by
  unfold pack
  split
  · simp [signedZero, nonzero]
  · simp [signedZero]

/-- The digits of a number that is not zero are not those of zero, as these read back as zero. -/
theorem shortest_ne_zero {significand : Nat} (nonzero : significand ≠ 0) (exponent : Int) :
    (shortest significand exponent).coefficient ≠ 0 := by
  intro isZero
  simp only [shortest] at isZero
  cases found : List.find? _ _ with
  | none =>
    rw [found] at isZero
    exact nonzero isZero
  | some d =>
    rw [found] at isZero
    have isZero : d.coefficient = 0 := isZero
    have reads := List.find?_some found
    simp only [Decimal.readsBack, beq_iff_eq, ofDecimal, if_pos isZero] at reads
    exact pack_ne_signedZero nonzero exponent reads.symm

theorem exists_unsigned_chars (negative : Bool) (significand : Nat) (exponent : Int)
    (canonical : IsCanonical significand exponent) :
    ∃ cs, chars (.finite negative significand exponent canonical) =
      (if negative then ['-'] else []) ++ cs ∧ Numeral.IsUnsigned cs := by
  refine ⟨_, rfl, ?_⟩
  split
  · have zero : ∀ d ∈ ['0'], isDigit d = true := by
      simpa using isDigit_zero
    exact .parts ['0'] (by simp) zero (.point ['0'] zero) .nothing
  · rename_i nonzero
    exact isUnsigned_layout (places_ne_nil (shortest_ne_zero nonzero exponent))
      fun c member => isDigit_of_mem_places member

end Binary64

/-! ## Texts of numbers -/

namespace Number

/-- The text of a number that is neither infinite nor none is a numeral. -/
theorem ofText?_text {n : Number} (ordered : n ≠ .real .nan)
    (notInfinite : ∀ negative, n ≠ .real (.infinite negative)) :
    (ofText? n.text).isSome = true := by
  cases n with
  | int n =>
    rw [ofText?, Option.isSome_map, text, toList_toString_int]
    exact Numeral.read?_isSome _ (isUnsigned_decimalDigits n.natAbs)
  | real x =>
    cases x with
    | nan => exact absurd rfl ordered
    | infinite negative => exact absurd rfl (notInfinite negative)
    | finite negative significand exponent canonical =>
      obtain ⟨cs, layout, isUnsigned⟩ :=
        Binary64.exists_unsigned_chars negative significand exponent canonical
      rw [ofText?, Option.isSome_map, text, Binary64.text, String.toList_ofList, layout]
      exact Numeral.read?_isSome negative isUnsigned

theorem ofText?_text_infinite (negative : Bool) :
    ofText? (text (.real (.infinite negative))) = none := by
  cases negative <;> decide +kernel

end Number

end LogSelect

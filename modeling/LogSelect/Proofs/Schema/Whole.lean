import Mathlib.Algebra.Order.Ring.Int
import LogSelect.Proofs.Number.Text
import LogSelect.Proofs.Text.Blank
import LogSelect.Proofs.Token.CharClass
import LogSelect.Schema.Column

/-!
Columns of whole numbers.

A text converts if it is a whole number that fits the word of the column, with any blanks around it
and any zeros in front.  It is refused with a report of the column if it is no whole number or one
that does not fit.  A number of more digits than can be read is neither: it fails, whether it fits
or not.
-/

namespace LogSelect

/-! ## Texts of whole numbers -/

inductive IsSign : List Char → Bool → Prop where
  | none : IsSign [] false
  | plus : IsSign ['+'] false
  | minus : IsSign ['-'] true

def signed (negative : Bool) (digits : List Char) : Int :=
  if negative then -Nat.ofDigitChars 10 digits 0 else Nat.ofDigitChars 10 digits 0

/-- An optional sign and digits `0` to `9`: their count, and the number they denote. -/
inductive WholeText : List Char → Nat → Int → Prop where
  | digits {sign digits negative} : IsSign sign negative → digits ≠ [] →
      (∀ d ∈ digits, d.isDigit = true) →
      WholeText (sign ++ digits) digits.length (signed negative digits)

/-- The text is a whole number of `size` digits that denote `n`, between blanks. -/
def Denotes (text : String) (size : Nat) (n : Int) : Prop :=
  ∃ front cs back, text.toList = front ++ (cs ++ back) ∧ AllBlank front ∧ AllBlank back ∧
    WholeText cs size n

/-- The numbers of a signed word of so many bits. -/
def InWord (bits : Nat) (n : Int) : Prop :=
  -2 ^ (bits - 1) ≤ n ∧ n < 2 ^ (bits - 1)

instance (bits : Nat) (n : Int) : Decidable (InWord bits n) :=
  inferInstanceAs (Decidable (_ ∧ _))

theorem not_isBlank {c : Char} (other : c ∈ ['+', '-'] ∨ c.isDigit = true) : isBlank c = false := by
  rw [Bool.eq_false_iff]
  intro blank
  have check : ∀ code ∈ CharClass.codes blanks.boundaries,
      ¬ (Char.ofNat code ∈ ['+', '-'] ∨ (Char.ofNat code).isDigit = true) := by decide +kernel
  apply check c.toNat (CharClass.mem_codes (by decide) blank)
  rwa [Char.ofNat_toNat]

theorem IsSign.takeSign {sign digits : List Char} {negative : Bool} (isSign : IsSign sign negative)
    (unsigned : ∀ d ∈ digits.head?, d.isDigit = true) :
    Numeral.takeSign (sign ++ digits) = (negative, digits) := by
  cases isSign with
  | none =>
    cases digits with
    | nil => rfl
    | cons d digits => exact Numeral.takeSign_digit (isDigit_of_charIsDigit (unsigned d rfl))
  | plus => rfl
  | minus => rfl

theorem isSign_takeSign (cs : List Char) :
    ∃ sign, cs = sign ++ (Numeral.takeSign cs).2 ∧ IsSign sign (Numeral.takeSign cs).1 := by
  cases cs with
  | nil => exact ⟨[], rfl, .none⟩
  | cons c cs =>
    rw [Numeral.takeSign_cons]
    split
    next same => exact ⟨['+'], by rw [same]; rfl, .plus⟩
    next =>
      split
      next same => exact ⟨['-'], by rw [same]; rfl, .minus⟩
      next => exact ⟨[], rfl, .none⟩

theorem wholeValue_digits (negative : Bool) (digits : List Char) :
    Numeral.wholeValue ⟨negative, digitValues digits, none, none⟩ = signed negative digits := by
  rw [Numeral.wholeValue, signed, ofDigits_digitValues]

namespace WholeText

variable {cs : List Char} {size : Nat} {n : Int}

theorem wholeNumeral?_eq (whole : WholeText cs size n) :
    ∃ numeral, Column.wholeNumeral? cs = some numeral ∧ numeral.whole.length = size ∧
      numeral.wholeValue = n := by
  cases whole with
  | @digits sign digits negative isSign nonempty all =>
    have first : ∀ d ∈ digits.head?, d.isDigit = true :=
      fun d front => all d (List.mem_of_mem_head? front)
    refine ⟨⟨negative, digitValues digits, none, none⟩, ?_, ?_, ?_⟩
    · have ascii : digits.all isAsciiDigit = true :=
        List.all_eq_true.2 fun d member => isAsciiDigit_of_isDigit (all d member)
      simp [Column.wholeNumeral?, isSign.takeSign first, nonempty, ascii]
    · simp
    · exact wholeValue_digits negative digits

theorem of_wholeNumeral? {numeral : Numeral} (read : Column.wholeNumeral? cs = some numeral) :
    WholeText cs numeral.whole.length numeral.wholeValue := by
  obtain ⟨sign, split, isSign⟩ := isSign_takeSign cs
  unfold Column.wholeNumeral? at read
  generalize Numeral.takeSign cs = taken at read split isSign
  obtain ⟨negative, digits⟩ := taken
  simp only [Option.ite_none_left_eq_some, Bool.or_eq_true, not_or] at read
  obtain ⟨⟨nonempty, ascii⟩, ⟨⟩⟩ := read
  obtain rfl : cs = sign ++ digits := split
  have all : digits.all isAsciiDigit = true := by simpa using ascii
  rw [wholeValue_digits, length_digitValues]
  refine .digits isSign (by simpa using nonempty) ?_
  intro d member
  rw [← isAsciiDigit_eq]
  exact List.all_eq_true.1 all d member

theorem ends_isBlank (whole : WholeText cs size n) :
    (∀ c ∈ cs.head?, isBlank c = false) ∧ ∀ c ∈ cs.getLast?, isBlank c = false := by
  have all : ∀ c ∈ cs, isBlank c = false := by
    cases whole with
    | @digits sign digits negative isSign _ all =>
      refine List.forall_mem_append.2 ⟨?_, fun d member => not_isBlank (.inr (all d member))⟩
      intro c member
      cases isSign with
      | none => cases member
      | plus | minus => exact not_isBlank (.inl (by simp_all))
  exact ⟨fun c front => all c (List.mem_of_mem_head? front),
    fun c back => all c (List.mem_of_getLast? back)⟩

end WholeText

theorem denotes_iff {text : String} {size : Nat} {n : Int} :
    Denotes text size n ↔ WholeText (strip text.toList) size n := by
  constructor
  · rintro ⟨front, cs, back, split, blankFront, blankBack, whole⟩
    obtain ⟨first, last⟩ := whole.ends_isBlank
    rwa [split, strip_between blankFront blankBack first last]
  · intro whole
    obtain ⟨front, back, split, blankFront, blankBack⟩ := exists_strip text.toList
    exact ⟨front, _, back, split, blankFront, blankBack, whole⟩

theorem Denotes.unique {text : String} {size size' : Nat} {n n' : Int}
    (denotes : Denotes text size n) (denotes' : Denotes text size' n') : size = size' ∧ n = n' := by
  obtain ⟨numeral, read, rfl, rfl⟩ := (denotes_iff.1 denotes).wholeNumeral?_eq
  obtain ⟨numeral', read', rfl, rfl⟩ := (denotes_iff.1 denotes').wholeNumeral?_eq
  obtain rfl : numeral = numeral' := Option.some.inj (read.symm.trans read')
  exact ⟨rfl, rfl⟩

/-! ## Conversion -/

def ColumnType.bits? : ColumnType → Option Nat
  | .i32 => some 32
  | .i64 => some 64
  | _ => none

namespace Column

variable {column : Column} {bits : Nat} {text : String}

theorem convert_eq_convertWhole (isWhole : column.type.bits? = some bits) (text : String) :
    column.convert text = column.convertWhole bits text := by
  cases type : column.type with
  | i32 | i64 =>
    rw [type] at isWhole
    cases isWhole
    rw [convert, type]
  | _ =>
    rw [type] at isWhole
    cases isWhole

theorem fits_iff (bits : Nat) (n : Int) : fits bits n = true ↔ InWord bits n := by
  simp [fits, InWord, and_comm]

theorem convertWhole_of_denotes {size : Nat} {n : Int} (denotes : Denotes text size n) :
    column.convertWhole bits text =
      if maxWholeDigits < size then .error (.numberTooLong size)
      else if InWord bits n then .ok (.number (.int n))
      else .error (.mismatch column.name column.type text) := by
  obtain ⟨numeral, read, rfl, rfl⟩ := (denotes_iff.1 denotes).wholeNumeral?_eq
  simp only [convertWhole, read, fits_iff]

theorem convertWhole_of_not (other : ∀ size n, ¬ Denotes text size n) :
    column.convertWhole bits text = .error (.mismatch column.name column.type text) := by
  cases read : wholeNumeral? (strip text.toList) with
  | none => rw [convertWhole, read]
  | some numeral =>
    exact absurd (denotes_iff.2 (WholeText.of_wholeNumeral? read)) (other _ _)

/-- What a text comes to in a column of whole numbers. -/
inductive ConvertsWhole (column : Column) (bits : Nat) (text : String) :
    Except ConvertError Value → Prop where
  | value {size n} : Denotes text size n → size ≤ maxWholeDigits → InWord bits n →
      ConvertsWhole column bits text (.ok (.number (.int n)))
  | mismatch : (∀ size n, Denotes text size n → size ≤ maxWholeDigits ∧ ¬ InWord bits n) →
      ConvertsWhole column bits text (.error (.mismatch column.name column.type text))
  /-- A whole number of too many digits, whether it fits or not. -/
  | tooLong {size n} : Denotes text size n → maxWholeDigits < size →
      ConvertsWhole column bits text (.error (.numberTooLong size))

/-- A column of whole numbers gives exactly the whole numbers that it can hold, and refuses every
other text with a report of the column, unless the text has too many digits to be read. -/
theorem convert_eq_iff (isWhole : column.type.bits? = some bits) (text : String)
    (result : Except ConvertError Value) :
    column.convert text = result ↔ ConvertsWhole column bits text result := by
  rw [convert_eq_convertWhole isWhole]
  constructor
  · rintro rfl
    by_cases whole : ∃ size n, Denotes text size n
    · obtain ⟨size, n, denotes⟩ := whole
      rw [convertWhole_of_denotes denotes]
      split
      next long => exact .tooLong denotes long
      next short =>
        split
        next inWord => exact .value denotes (Nat.not_lt.1 short) inWord
        next outside =>
          refine .mismatch fun size' n' denotes' => ?_
          obtain ⟨rfl, rfl⟩ := denotes.unique denotes'
          exact ⟨Nat.not_lt.1 short, outside⟩
    · simp only [not_exists] at whole
      rw [convertWhole_of_not whole]
      exact .mismatch fun size n denotes => absurd denotes (whole size n)
  · intro converts
    cases converts with
    | value denotes short inWord =>
      rw [convertWhole_of_denotes denotes, if_neg (Nat.not_lt.2 short), if_pos inWord]
    | tooLong denotes long => rw [convertWhole_of_denotes denotes, if_pos long]
    | mismatch other =>
      by_cases whole : ∃ size n, Denotes text size n
      · obtain ⟨size, n, denotes⟩ := whole
        obtain ⟨short, outside⟩ := other size n denotes
        rw [convertWhole_of_denotes denotes, if_neg (Nat.not_lt.2 short), if_neg outside]
      · simp only [not_exists] at whole
        exact convertWhole_of_not whole

/-- Blanks, a sign and zeros in front of a digit. -/
theorem convert_eq_iff_padded :
    ColumnType.i32.bits? = some 32 ∧
      (convert ⟨"n", false, .i32⟩ " -007\n" = .ok (.number (.int (-7))) ↔
        ConvertsWhole ⟨"n", false, .i32⟩ 32 " -007\n" (.ok (.number (.int (-7))))) ∧
      ConvertsWhole ⟨"n", false, .i32⟩ 32 " -007\n" (.ok (.number (.int (-7)))) := by
  have isWhole : ColumnType.i32.bits? = some 32 := rfl
  have reads := @convert_eq_iff ⟨"n", false, .i32⟩ 32 isWhole " -007\n" (.ok (.number (.int (-7))))
  have converted : convert ⟨"n", false, .i32⟩ " -007\n" = .ok (.number (.int (-7))) := by
    decide +kernel
  exact ⟨isWhole, reads, reads.1 converted⟩

theorem denotes_zeros (k : Nat) :
    Denotes (String.ofList (List.replicate (k + 1) '0')) (k + 1) 0 := by
  have digits := @WholeText.digits _ (List.replicate (k + 1) '0') _ .none (by simp)
    fun d member => by rw [List.eq_of_mem_replicate member]; rfl
  rw [List.length_replicate, signed, Binary64.ofDigitChars_zeros, Nat.zero_mul] at digits
  exact ⟨[], _, [], by rw [String.toList_ofList, List.append_nil]; rfl, nofun, nofun, digits⟩

/-- Zero with too many digits fits the column, and yet the column neither gives it nor reports its
text. -/
theorem convert_unreported :
    Denotes (String.ofList (List.replicate 4301 '0')) 4301 0 ∧ InWord 32 0 ∧
      convert ⟨"n", false, .i32⟩ (String.ofList (List.replicate 4301 '0')) =
        .error (.numberTooLong 4301) := by
  have denotes := denotes_zeros 4300
  have isWhole : (⟨"n", false, .i32⟩ : Column).type.bits? = some 32 := rfl
  refine ⟨denotes, by decide, ?_⟩
  rw [convert_eq_convertWhole isWhole, convertWhole_of_denotes denotes]
  rfl

end Column

end LogSelect

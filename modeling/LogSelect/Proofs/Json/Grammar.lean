import LogSelect.Json.Read

/-!
The grammar of JSON texts, as RFC 8259 defines it, with the data that they denote.

A phrase is related to what stands behind it, so no text has to be cut in two.  Blanks may stand
around every phrase but the parts of a number and of a text.  Numbers with a fraction or an exponent
denote the nearest floating-point number.  Of entries with one name the last one counts.  An
implementation may limit the numbers it takes, so the grammar has a condition on numerals.
-/

namespace LogSelect.Json

inductive Blank : List Char → List Char → Prop where
  | here (cs) : Blank cs cs
  | pass {c cs rest} : isSpace c = true → Blank cs rest → Blank (c :: cs) rest

/-- What stands between the quotes of a text, and behind it. -/
inductive Content : List Char → List Char → List Char → Prop where
  | close {rest} : Content ('"' :: rest) [] rest
  | plain {c cs s rest} : c ≠ '"' → c ≠ '\\' → 32 ≤ c.toNat → Content cs s rest →
      Content (c :: cs) (c :: s) rest
  | short {e c cs s rest} : shortEscape? e = some c → Content cs s rest →
      Content ('\\' :: e :: cs) (c :: s) rest
  | numeric {c cs behind s rest} : takeUnicodeEscape? cs = some (c, behind) →
      Content behind s rest → Content ('\\' :: 'u' :: cs) (c :: s) rest

def AreDigits (cs : List Char) : Prop :=
  cs ≠ [] ∧ ∀ c ∈ cs, isAsciiDigit c = true

/-- The whole part of a numeral: a leading zero stands alone. -/
inductive IsWhole : List Char → Prop where
  | zero : IsWhole ['0']
  | digits {cs} : AreDigits cs → cs.head? ≠ some '0' → IsWhole cs

theorem IsWhole.areDigits {cs : List Char} (isWhole : IsWhole cs) : AreDigits cs := by
  cases isWhole with
  | zero => exact ⟨by simp, List.forall_mem_singleton.2 rfl⟩
  | digits areDigits _ => exact areDigits

inductive IsFraction : List Char → Option (List Nat) → Prop where
  | nothing : IsFraction [] none
  | point {ds} : AreDigits ds → IsFraction ('.' :: ds) (some (digitValues ds))

inductive IsSign : List Char → Bool → Prop where
  | nothing : IsSign [] false
  | plus : IsSign ['+'] false
  | minus : IsSign ['-'] true

inductive IsExponent : List Char → Option (Bool × List Nat) → Prop where
  | nothing : IsExponent [] none
  | power {e sign negative ds} : e = 'e' ∨ e = 'E' → IsSign sign negative → AreDigits ds →
      IsExponent (e :: (sign ++ ds)) (some (negative, digitValues ds))

inductive IsNumeral : List Char → Numeral → Prop where
  | intro (negative) {whole fraction exponent digits power} : IsWhole whole →
      IsFraction fraction digits → IsExponent exponent power →
      IsNumeral ((if negative then ['-'] else []) ++ (whole ++ (fraction ++ exponent)))
        ⟨negative, digitValues whole, digits, power⟩

def IsLong (numeral : Numeral) : Prop :=
  maxWholeDigits < numeral.whole.length ∧ numeral.fraction = none ∧ numeral.exponent = none

instance (numeral : Numeral) : Decidable (IsLong numeral) :=
  inferInstanceAs (Decidable (_ ∧ _ ∧ _))

def numberOf (numeral : Numeral) : Number :=
  if numeral.fraction.isSome || numeral.exponent.isSome then .real numeral.realValue
  else .int numeral.wholeValue

/-- The parts of a text that hold one another: a datum, the members of a list with the bracket
behind them, and the entries of an object with the brace behind them. -/
inductive Phrase where
  | datum (d : Datum)
  | members (items : List Datum)
  | entries (pairs : List (Datum × Datum))

section

variable (allowed : Numeral → Prop)

/-- A phrase in front of a text, what it denotes, and what stands behind it. -/
inductive Spells : List Char → Phrase → List Char → Prop where
  | null {rest} : Spells ('n' :: 'u' :: 'l' :: 'l' :: rest) (.datum .null) rest
  | isTrue {rest} : Spells ('t' :: 'r' :: 'u' :: 'e' :: rest) (.datum (.bool true)) rest
  | isFalse {rest} : Spells ('f' :: 'a' :: 'l' :: 's' :: 'e' :: rest) (.datum (.bool false)) rest
  | number {cs numeral rest} : IsNumeral cs numeral → allowed numeral →
      Spells (cs ++ rest) (.datum (.number (numberOf numeral))) rest
  | text {cs s rest} : Content cs s rest →
      Spells ('"' :: cs) (.datum (.text (String.ofList s))) rest
  | emptyList {cs rest} : Blank cs (']' :: rest) → Spells ('[' :: cs) (.datum (.list [])) rest
  | list {cs items rest} : Spells cs (.members items) rest →
      Spells ('[' :: cs) (.datum (.list items)) rest
  | emptyMap {cs rest} : Blank cs ('\x7d' :: rest) → Spells ('\x7b' :: cs) (.datum (.map [])) rest
  | map {cs pairs rest} : Spells cs (.entries pairs) rest →
      Spells ('\x7b' :: cs) (.datum (Datum.mapOf pairs)) rest
  | lastMember {cs front d behind rest} : Blank cs front → Spells front (.datum d) behind →
      Blank behind (']' :: rest) → Spells cs (.members [d]) rest
  | member {cs front d behind next items rest} : Blank cs front → Spells front (.datum d) behind →
      Blank behind (',' :: next) → Spells next (.members items) rest →
      Spells cs (.members (d :: items)) rest
  | lastEntry {cs name s colon value front d behind rest} : Blank cs ('"' :: name) →
      Content name s colon → Blank colon (':' :: value) → Blank value front →
      Spells front (.datum d) behind → Blank behind ('\x7d' :: rest) →
      Spells cs (.entries [(.text (String.ofList s), d)]) rest
  | entry {cs name s colon value front d behind next pairs rest} : Blank cs ('"' :: name) →
      Content name s colon → Blank colon (':' :: value) → Blank value front →
      Spells front (.datum d) behind → Blank behind (',' :: next) →
      Spells next (.entries pairs) rest →
      Spells cs (.entries ((.text (String.ofList s), d) :: pairs)) rest

def Denotes (text : String) (d : Datum) : Prop :=
  ∃ front behind, Blank text.toList front ∧ Spells allowed front (.datum d) behind ∧
    Blank behind []

end

def IsText (text : String) (d : Datum) : Prop :=
  Denotes (fun _ => True) text d

end LogSelect.Json

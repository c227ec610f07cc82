import LogSelect.Proofs.Token.CharClass

/-!
The words of the query language, as rules on their characters, written apart from the scan.

A text spells a token if it is one of the forms below, whatever surrounds it.
-/

namespace LogSelect.Token

def minus (negative : Bool) : List Char :=
  if negative then ['-'] else []

/-- Texts of numbers: an optional minus sign, digits, and optionally a point with further digits.
A whole number has no more digits than can be read. -/
inductive NumberText : List Char → Number → Prop where
  | whole {negative digits} : digits ≠ [] → (∀ c ∈ digits, isAsciiDigit c = true) →
      digits.length ≤ maxWholeDigits →
      NumberText (minus negative ++ digits)
        (.int (Numeral.wholeValue ⟨negative, digitValues digits, none, none⟩))
  | decimal {negative digits fraction} : digits ≠ [] → fraction ≠ [] →
      (∀ c ∈ digits, isAsciiDigit c = true) → (∀ c ∈ fraction, isAsciiDigit c = true) →
      NumberText (minus negative ++ (digits ++ '.' :: fraction))
        (.real (Numeral.realValue
          ⟨negative, digitValues digits, some (digitValues fraction), none⟩))

inductive TextInside (quote : Char) : List Char → List Char → Prop where
  | nil : TextInside quote [] []
  | doubled {inside content} : TextInside quote inside content →
      TextInside quote (quote :: quote :: inside) (quote :: content)
  | escaped {d inside content} : quote ≠ '\\' → TextInside quote inside content →
      TextInside quote ('\\' :: d :: inside) (unescape d ++ content)
  | plain {c inside content} : c ≠ quote → c ≠ '\\' → TextInside quote inside content →
      TextInside quote (c :: inside) (c :: content)

inductive Lexeme : Body → List Char → Prop where
  | pair {c d op} : pairOp? c d = some op → Lexeme (.op op) [c, d]
  | sign {c body} : signBody? c = some body → Lexeme body [c]
  | text {quote inside content} : quote = '\'' ∨ quote = '"' → TextInside quote inside content →
      Lexeme (.text (String.ofList content)) (quote :: (inside ++ [quote]))
  | number {cs n} : NumberText cs n → Lexeme (.number n) cs
  | quoted {name} : name ≠ [] → backQuote ∉ name →
      Lexeme (.name (String.ofList name)) (backQuote :: (name ++ [backQuote]))
  | word {c more} : startsWord c = true → (∀ d ∈ more, continuesWord d = true) →
      Lexeme (wordBody (c :: more)) (c :: more)

/-- A character that may continue a token which could also end in front of it. -/
def continuesToken (c : Char) : Bool :=
  continuesWord c || isAsciiDigit c || ['\'', '"', '=', '>'].contains c

/-- A text that continues no token in front of it. -/
def Separated (rest : List Char) : Prop :=
  ∀ c ∈ rest.head?, continuesToken c = false

theorem separated_nil : Separated [] := by
  simp [Separated]

theorem separated_cons {c : Char} {cs : List Char} (other : continuesToken c = false) :
    Separated (c :: cs) := by
  simpa [Separated] using other

theorem continuesToken_of_isBlank {c : Char} (blank : isBlank c = true) :
    continuesToken c = false := by
  have check : ∀ code ∈ CharClass.codes blanks.boundaries,
      continuesToken (Char.ofNat code) = false := by decide +kernel
  rw [← Char.ofNat_toNat c]
  exact check c.toNat (CharClass.mem_codes (by decide) blank)

namespace Separated

variable {rest : List Char}

theorem not_continuesWord (separated : Separated rest) :
    ∀ c ∈ rest.head?, continuesWord c = false := by
  intro c front
  have other := separated c front
  simp only [continuesToken, Bool.or_eq_false_iff] at other
  exact other.1.1

theorem not_isAsciiDigit (separated : Separated rest) :
    ∀ c ∈ rest.head?, isAsciiDigit c = false := by
  intro c front
  have other := separated c front
  simp only [continuesToken, Bool.or_eq_false_iff] at other
  exact other.1.2

theorem head?_ne (separated : Separated rest) {c : Char} (continues : continuesToken c = true) :
    rest.head? ≠ some c := by
  intro front
  rw [separated c front] at continues
  cases continues

end Separated

end LogSelect.Token

import LogSelect.Query.Token

/-!
Which characters may start or continue the tokens of a query.

A class that is bounded above is the list of its codes, so a fact about all of its characters is
checked code by code.
-/

namespace LogSelect

namespace CharClass

def codes : List Nat → List Nat
  | start :: stop :: rest => List.range' start (stop - start) ++ codes rest
  | _ => []

theorem mem_codes {code : Nat} {boundaries : List Nat} (closed : boundaries.length % 2 = 0)
    (member : memberFrom code false boundaries = true) : code ∈ codes boundaries := by
  fun_induction codes boundaries with
  | case1 start stop rest ih =>
    rw [List.mem_append, List.mem_range'_1]
    by_cases below : code < start
    · simp [memberFrom, below] at member
    · by_cases inside : code < stop
      · exact .inl ⟨by omega, by omega⟩
      · simp only [memberFrom, if_neg below, if_neg inside, Bool.not_false, Bool.not_true] at member
        exact .inr (ih (by simp only [List.length_cons] at closed; omega) member)
  | case2 boundaries other =>
    cases boundaries with
    | nil => simp [memberFrom] at member
    | cons start rest =>
      cases rest with
      | nil => simp at closed
      | cons stop rest => exact absurd rfl (other start stop rest)

end CharClass

theorem isLetter_of_isBlank {c : Char} (blank : isBlank c = true) : isLetter c = false := by
  have check : ∀ code ∈ CharClass.codes blanks.boundaries,
      CharClass.memberFrom code false letters.boundaries = false := by decide +kernel
  exact check c.toNat (CharClass.mem_codes (by decide) blank)

theorem isLetter_of_lt {c : Char} (below : c.toNat < 'A'.toNat) : isLetter c = false :=
  if_pos below

namespace Token

theorem isBlank_of_startsWord {c : Char} (starts : startsWord c = true) : isBlank c = false := by
  rw [Bool.eq_false_iff]
  intro blank
  have underscore : (c == '_') = true := by
    simpa [startsWord, isLetter_of_isBlank blank] using starts
  rw [beq_iff_eq.1 underscore] at blank
  exact absurd blank (by decide)

theorem isAsciiDigit_of_startsWord {c : Char} (starts : startsWord c = true) :
    isAsciiDigit c = false := by
  rw [Bool.eq_false_iff]
  intro digit
  simp only [isAsciiDigit, Bool.and_eq_true, decide_eq_true_eq] at digit
  have bound : c.toNat ≤ '9'.toNat := digit.2
  have letter : isLetter c = false := isLetter_of_lt (Nat.lt_of_le_of_lt bound (by decide))
  have underscore : (c == '_') = true := by simpa [startsWord, letter] using starts
  rw [beq_iff_eq.1 underscore] at bound
  exact absurd bound (by decide)

end Token

end LogSelect

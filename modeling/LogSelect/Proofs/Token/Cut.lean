import Mathlib.Data.List.Basic
import LogSelect.Proofs.Token.Step

/-!
A step of the scan does not hang on the text behind what it takes.

If all that a step takes lies in front of a cut, the same step is made when the text ends at the
cut.  Some steps look beyond what they take: at a second quote, at the digits behind a point, at
the other half of an operator.  What they look for would be taken if it stood there, so it does not
stand in front of the cut either.
-/

namespace LogSelect.Token

/-- The step takes no more than `n` characters beyond the first, and it is no fault. -/
def Step.Within (n : Nat) : Step → Prop
  | .skip extra => extra ≤ n
  | .token _ extra => extra ≤ n
  | .fault _ => False

theorem Step.Within.mono {m n : Nat} {s : Step} (within : s.Within m) (le : m ≤ n) :
    s.Within n := by
  cases s with
  | skip extra => exact Nat.le_trans within le
  | token body extra => exact Nat.le_trans within le
  | fault fault => exact within

section Cut

variable {cs rest : List Char} {c : Char}

/-! ## Texts -/

/-- The closing quote of a literal is not the first half of a doubled one. -/
theorem head?_behind_text {quote : Char} {content : List Char} {n : Nat}
    (scanned : scanText quote cs = some (content, n)) : (cs.drop n).head? ≠ some quote := by
  fun_induction scanText quote cs generalizing content n with
  | case1 | case3 => cases scanned
  | case2 =>
    cases scanned
    simp
  | case4 tail ih =>
    obtain ⟨⟨_, m⟩, inner, ⟨⟩⟩ := Option.map_eq_some_iff.1 scanned
    exact ih inner
  | case5 d tail single =>
    cases scanned
    simpa using single
  | case6 d tail notQuote ih =>
    obtain ⟨⟨_, m⟩, inner, ⟨⟩⟩ := Option.map_eq_some_iff.1 scanned
    exact ih inner
  | case7 c d tail notQuote notBackslash ih =>
    obtain ⟨⟨_, m⟩, inner, ⟨⟩⟩ := Option.map_eq_some_iff.1 scanned
    exact ih inner

theorem scanText_cut {quote : Char} {content : List Char} {n : Nat}
    (scanned : scanText quote (cs ++ rest) = some (content, n)) (within : n ≤ cs.length) :
    scanText quote cs = some (content, n) := by
  obtain ⟨inside, forms, taken⟩ := textInside_of_scanText scanned
  rw [List.take_append_of_le_length within] at taken
  have size : n = inside.length + 1 := by
    have lengths := congrArg List.length taken
    rw [List.length_take_of_le within, List.length_append] at lengths
    exact lengths
  have split : cs = inside ++ quote :: cs.drop n := by
    calc
      cs = cs.take n ++ cs.drop n := (List.take_append_drop n cs).symm
      _ = inside ++ quote :: cs.drop n := by rw [taken, List.append_assoc, List.singleton_append]
  have closes : (cs.drop n).head? ≠ some quote := by
    intro front
    have behind := head?_behind_text scanned
    rw [List.drop_append_of_le_length within] at behind
    exact behind (List.mem_head?_append_of_mem_head? front)
  rw [split, scanText_append forms closes, size]

/-! ## Numbers -/

theorem asciiDigits_cut (within : (asciiDigits (cs ++ rest)).length ≤ cs.length) :
    asciiDigits cs = asciiDigits (cs ++ rest) :=
  takeWhile_cut within

theorem fractionDigits_cut
    (within : fractionDigits (cs ++ rest) ≠ [] →
      (fractionDigits (cs ++ rest)).length < cs.length) :
    fractionDigits cs = fractionDigits (cs ++ rest) := by
  by_cases none : fractionDigits (cs ++ rest) = []
  · rw [none]
    cases cs with
    | nil => rfl
    | cons c cs =>
      by_cases point : c = '.'
      · subst point
        have short : (asciiDigits (cs ++ rest)).length ≤ cs.length := by
          rw [show asciiDigits (cs ++ rest) = [] from none]
          exact Nat.zero_le _
        exact (asciiDigits_cut short).trans none
      · exact fractionDigits_of_ne (by simpa using point)
  · have short := within none
    cases cs with
    | nil => exact absurd short (Nat.not_lt_zero _)
    | cons c cs =>
      obtain ⟨tail, split, digits⟩ := eq_point_of_fractionDigits none
      obtain ⟨rfl, rfl⟩ := List.cons.inj split
      exact asciiDigits_cut (Nat.lt_succ_iff.1 short)

theorem le_of_numberStep {negative : Bool} {before n : Nat}
    (digit : cs.head?.any isAsciiDigit = true)
    (within : (numberStep negative before cs).Within n) : before ≤ n := by
  have positive : 0 < (asciiDigits cs).length := by
    cases cs with
    | nil => cases digit
    | cons c cs =>
      have first : isAsciiDigit c = true := digit
      simp [asciiDigits, first]
  unfold numberStep at within
  simp only at within
  split at within
  · split at within
    · simp only [Step.Within] at within
      omega
    · exact within.elim
  · simp only [Step.Within] at within
    omega

theorem numberStep_cut {negative : Bool} {before : Nat} (nonempty : 0 < before + cs.length)
    (within : (numberStep negative before (cs ++ rest)).Within (before + cs.length - 1)) :
    numberStep negative before cs = numberStep negative before (cs ++ rest) := by
  have bounds : (asciiDigits (cs ++ rest)).length ≤ cs.length ∧
      (fractionDigits ((cs ++ rest).drop (asciiDigits (cs ++ rest)).length) ≠ [] →
        (fractionDigits ((cs ++ rest).drop (asciiDigits (cs ++ rest)).length)).length <
          cs.length - (asciiDigits (cs ++ rest)).length) := by
    unfold numberStep at within
    simp only at within
    split at within
    next noFraction =>
      split at within
      · simp only [Step.Within] at within
        exact ⟨by omega, fun some => absurd (List.isEmpty_iff.1 noFraction) some⟩
      · exact within.elim
    next fraction =>
      have positive := List.length_pos_iff.2 (mt List.isEmpty_iff.2 fraction)
      simp only [Step.Within] at within
      exact ⟨by omega, fun _ => by omega⟩
  obtain ⟨wholeWithin, fractionWithin⟩ := bounds
  rw [List.drop_append_of_le_length wholeWithin, ← List.length_drop] at fractionWithin
  have whole := asciiDigits_cut wholeWithin
  have fraction := fractionDigits_cut fractionWithin
  simp only [numberStep, whole, List.drop_append_of_le_length wholeWithin, fraction]

/-! ## Names -/

theorem quotedNameStep_cut (within : (quotedNameStep (cs ++ rest)).Within cs.length) :
    quotedNameStep cs = quotedNameStep (cs ++ rest) := by
  have short : ((cs ++ rest).takeWhile (· != backQuote)).length < cs.length := by
    unfold quotedNameStep at within
    simp only at within
    split at within
    · exact within.elim
    · split at within
      · exact within.elim
      · exact within
  have name : cs.takeWhile (· != backQuote) = (cs ++ rest).takeWhile (· != backQuote) :=
    takeWhile_cut (Nat.le_of_lt short)
  have open₁ : ((cs ++ rest).takeWhile (· != backQuote)).length ≠ cs.length := Nat.ne_of_lt short
  have open₂ : ((cs ++ rest).takeWhile (· != backQuote)).length ≠ (cs ++ rest).length := by
    rw [List.length_append]
    omega
  simp only [quotedNameStep, name, if_neg open₁, if_neg open₂]

/-! ## Steps -/

theorem step_startsWord (starts : startsWord c = true) (cs : List Char) :
    step c cs = .token (wordBody (c :: cs.takeWhile continuesWord))
      (cs.takeWhile continuesWord).length := by
  have noDigit := isAsciiDigit_of_startsWord starts
  rw [step_ordinary _ (isBlank_of_startsWord starts)
    (not_mem_special starts (by decide +kernel))]
  simp only [noDigit, starts, Bool.false_eq_true, if_false, if_true]

theorem step_hyphen (cs : List Char) :
    step '-' cs =
      if cs.head? = some '-' then .skip (cs.takeWhile (· != '\n')).length
      else if cs.head?.any isAsciiDigit then numberStep true 1 cs
      else .fault (.unexpected '-') := by
  by_cases comment : cs.head? = some '-'
  · rw [step, if_pos comment, if_neg (by decide), if_pos ⟨rfl, comment⟩]
  · rw [step, no_pair (by decide) cs, if_neg comment]
    simp only [comment, and_false, if_false, true_and]
    rfl

theorem step_sign_or_blank (cs : List Char) (noHyphen : c ≠ '-') (noQuote : ¬ (c = '\'' ∨ c = '"'))
    (noDigit : ¬ isAsciiDigit c = true) (noBackQuote : c ≠ backQuote)
    (noWord : ¬ startsWord c = true) :
    step c cs =
      if isBlank c then .skip 0
      else
        match cs.head?.bind (pairOp? c), signBody? c with
        | some op, _ => .token (.op op) 1
        | none, some body => .token body 0
        | none, none => .fault (.unexpected c) := by
  unfold step
  simp only [noHyphen, noQuote, noDigit, noBackQuote, noWord, false_and, if_false]
  cases cs.head?.bind (pairOp? c) with
  | some op => rfl
  | none => cases signBody? c <;> rfl

theorem step_hyphen_cut (within : (step '-' (cs ++ rest)).Within cs.length) :
    step '-' cs = step '-' (cs ++ rest) := by
  rw [step_hyphen] at within
  rw [step_hyphen, step_hyphen]
  cases cs with
  | nil =>
    exfalso
    rw [List.nil_append] at within
    split at within
    next comment =>
      obtain ⟨tail, rfl⟩ := List.head?_eq_some_iff.1 comment
      simp [Step.Within] at within
    next =>
      split at within
      next digit => exact absurd (le_of_numberStep digit within) (by simp)
      next => exact within
  | cons d cs =>
    rw [List.head?_append_of_ne_nil _ (List.cons_ne_nil d cs)] at within ⊢
    split at within
    next comment => rw [if_pos comment, if_pos comment, takeWhile_cut within]
    next noComment =>
      rw [if_neg noComment, if_neg noComment]
      split at within
      next digit =>
        rw [if_pos digit, if_pos digit]
        apply numberStep_cut
        · omega
        · simpa using within
      next => exact within.elim

theorem bind_pairOp?_cut
    (within : ∀ op, (cs ++ rest).head?.bind (pairOp? c) = some op → 1 ≤ cs.length) :
    cs.head?.bind (pairOp? c) = (cs ++ rest).head?.bind (pairOp? c) := by
  cases cs with
  | nil =>
    cases pair : ([] ++ rest).head?.bind (pairOp? c) with
    | none => rfl
    | some op => exact absurd (within op pair) (by simp)
  | cons d cs => rw [List.head?_append_of_ne_nil _ (List.cons_ne_nil d cs)]

/-- A step that takes nothing from behind a cut is the step of the text up to the cut. -/
theorem step_cut (within : (step c (cs ++ rest)).Within cs.length) :
    step c cs = step c (cs ++ rest) := by
  by_cases hyphen : c = '-'
  · subst hyphen
    exact step_hyphen_cut within
  by_cases quote : c = '\'' ∨ c = '"'
  · rw [step_quote quote] at within
    rw [step_quote quote, step_quote quote]
    cases scanned : scanText c (cs ++ rest) with
    | none =>
      rw [scanned] at within
      exact within.elim
    | some result =>
      rw [scanned] at within
      rw [scanText_cut scanned within]
  by_cases digit : isAsciiDigit c = true
  · rw [step_digit digit] at within
    rw [step_digit digit, step_digit digit]
    have nonempty : 0 < 0 + (c :: cs).length := by simp
    exact numberStep_cut nonempty (by simpa using within)
  by_cases backQuoted : c = backQuote
  · subst backQuoted
    rw [step_backQuote] at within
    rw [step_backQuote, step_backQuote]
    exact quotedNameStep_cut within
  by_cases starts : startsWord c = true
  · rw [step_startsWord starts] at within
    rw [step_startsWord starts, step_startsWord starts, takeWhile_cut within]
  · rw [step_sign_or_blank _ hyphen quote digit backQuoted starts] at within
    rw [step_sign_or_blank _ hyphen quote digit backQuoted starts,
      step_sign_or_blank _ hyphen quote digit backQuoted starts]
    by_cases blank : isBlank c = true
    · rw [if_pos blank, if_pos blank]
    · rw [if_neg blank] at within
      have pair : cs.head?.bind (pairOp? c) = (cs ++ rest).head?.bind (pairOp? c) := by
        apply bind_pairOp?_cut
        intro op isPair
        rw [isPair] at within
        exact within
      rw [pair]

end Cut

end LogSelect.Token

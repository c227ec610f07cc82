import LogSelect.Proofs.Text.Stretch
import LogSelect.Proofs.Token.Lexeme

/-!
A lexeme in front of a text that does not continue it is read as its token, and whatever is read
as a token is one of its lexemes.
-/

namespace LogSelect.Token

/-! ## Signs and operators -/

theorem step_pair {c d : Char} {op : CompareOp} (pair : pairOp? c d = some op) (rest : List Char) :
    step c (d :: rest) = .token (.op op) 1 := by
  unfold pairOp? at pair
  split at pair <;> cases pair <;> rfl

theorem step_sign {c : Char} {rest : List Char} {body : Body} (sign : signBody? c = some body)
    (single : rest.head?.bind (pairOp? c) = none) : step c rest = .token body 0 := by
  have ordinary : isBlank c = false ∧ c ≠ '-' := by
    unfold signBody? at sign
    split at sign <;> first | decide | cases sign
  simp only [step, ordinary.1, ordinary.2, single, sign, Bool.false_eq_true, if_false, false_and]

theorem eq_of_pairOp? {c d : Char} {op : CompareOp} (pair : pairOp? c d = some op) :
    d = '=' ∨ d = '>' := by
  unfold pairOp? at pair
  split at pair <;> simp_all

theorem Separated.single {rest : List Char} (separated : Separated rest) (c : Char) :
    rest.head?.bind (pairOp? c) = none := by
  cases rest with
  | nil => rfl
  | cons d rest =>
    rw [List.head?_cons, Option.bind_some]
    cases pair : pairOp? c d with
    | none => rfl
    | some op =>
      rcases eq_of_pairOp? pair with rfl | rfl
      · exact absurd rfl (separated.head?_ne (c := '=') (by decide))
      · exact absurd rfl (separated.head?_ne (c := '>') (by decide))

theorem no_pair {c : Char} (other : c ∉ ['<', '>', '!']) (cs : List Char) :
    cs.head?.bind (pairOp? c) = none := by
  cases cs with
  | nil => rfl
  | cons d cs =>
    rw [List.head?_cons, Option.bind_some]
    unfold pairOp?
    split <;> first | rfl | exact absurd (by decide) other

/-! ## Words and names -/

/-- The characters that begin neither a word nor a number without sign. -/
def special : List Char :=
  ['-', '<', '>', '!', '=', '(', ')', ',', '*', ';', '\'', '"', backQuote]

theorem step_ordinary {c : Char} (cs : List Char) (notBlank : isBlank c = false)
    (ordinary : c ∉ special) :
    step c cs =
      if isAsciiDigit c then numberStep false 0 (c :: cs)
      else if startsWord c then
        .token (wordBody (c :: cs.takeWhile continuesWord)) (cs.takeWhile continuesWord).length
      else .fault (.unexpected c) := by
  have noPair : cs.head?.bind (pairOp? c) = none :=
    no_pair (fun member => ordinary ((by decide : ['<', '>', '!'] ⊆ special) member)) cs
  have noSign : signBody? c = none := by
    unfold signBody?
    split <;> first | rfl | exact absurd (by decide) ordinary
  have noMinus : c ≠ '-' := by
    rintro rfl
    exact ordinary (by decide)
  have noQuote : ¬ (c = '\'' ∨ c = '"') := by
    rintro (rfl | rfl) <;> exact ordinary (by decide)
  have noBackQuote : c ≠ backQuote := by
    rintro rfl
    exact ordinary (by decide)
  simp only [step, notBlank, noMinus, noPair, noSign, noQuote, noBackQuote, Bool.false_eq_true,
    if_false, false_and]

theorem not_mem_special {c : Char} {p : Char → Bool} (holds : p c = true)
    (check : special.all (fun d => !p d) = true) : c ∉ special := by
  intro member
  have fails := List.all_eq_true.1 check c member
  rw [holds] at fails
  cases fails

theorem step_word {c : Char} {more rest : List Char} (starts : startsWord c = true)
    (all : ∀ d ∈ more, continuesWord d = true) (stop : ∀ d ∈ rest.head?, continuesWord d = false) :
    step c (more ++ rest) = .token (wordBody (c :: more)) more.length := by
  have noDigit := isAsciiDigit_of_startsWord starts
  rw [step_ordinary _ (isBlank_of_startsWord starts)
    (not_mem_special starts (by decide +kernel)), takeWhile_append all stop]
  simp only [noDigit, starts, Bool.false_eq_true, if_false, if_true]

theorem step_backQuote (cs : List Char) : step backQuote cs = quotedNameStep cs := by
  rw [step, no_pair (by decide) cs]
  rfl

theorem step_quoted {name : List Char} (nonempty : name ≠ []) (closed : backQuote ∉ name)
    (rest : List Char) :
    step backQuote (name ++ backQuote :: rest) =
      .token (.name (String.ofList name)) (name.length + 1) := by
  have inside : (name ++ backQuote :: rest).takeWhile (· != backQuote) = name := by
    refine takeWhile_append (fun c member => ?_) (by simp)
    simpa using ne_of_mem_of_not_mem member closed
  have longer : name.length ≠ (name ++ backQuote :: rest).length := by simp
  have notEmpty : name.isEmpty = false := by simpa using nonempty
  rw [step_backQuote]
  simp only [quotedNameStep, inside, longer, notEmpty, Bool.false_eq_true, if_false]

/-! ## Texts -/

theorem scanText_append {quote : Char} {inside content : List Char}
    (forms : TextInside quote inside content) {rest : List Char}
    (closes : rest.head? ≠ some quote) :
    scanText quote (inside ++ quote :: rest) = some (content, inside.length + 1) := by
  induction forms with
  | nil =>
    cases rest with
    | nil => simp [scanText]
    | cons d rest =>
      have other : d ≠ quote := fun same => closes (by rw [same]; rfl)
      simp [scanText, other]
  | doubled _ ih => simp [scanText, ih]
  | escaped notBackslash _ ih => simp [scanText, ih, notBackslash.symm]
  | @plain c inside content notQuote notBackslash _ ih =>
    obtain ⟨d, tail, split⟩ : ∃ d tail, inside ++ quote :: rest = d :: tail := by
      cases inside <;> exact ⟨_, _, rfl⟩
    rw [List.cons_append, split, scanText, if_neg notQuote, if_neg notBackslash, ← split, ih]
    rfl

theorem step_quote {quote : Char} (isQuote : quote = '\'' ∨ quote = '"') (cs : List Char) :
    step quote cs =
      match scanText quote cs with
      | some (content, n) => .token (.text (String.ofList content)) n
      | none => .fault .unterminatedText := by
  rcases isQuote with rfl | rfl
  · rw [step, no_pair (by decide) cs]
    rfl
  · rw [step, no_pair (by decide) cs]
    rfl

theorem step_text {quote : Char} {inside content : List Char}
    (isQuote : quote = '\'' ∨ quote = '"') (forms : TextInside quote inside content)
    {rest : List Char} (closes : rest.head? ≠ some quote) :
    step quote (inside ++ quote :: rest) =
      .token (.text (String.ofList content)) (inside.length + 1) := by
  rw [step_quote isQuote, scanText_append forms closes]

/-! ## Numbers -/

theorem step_digit {c : Char} (digit : isAsciiDigit c = true) (cs : List Char) :
    step c cs = numberStep false 0 (c :: cs) := by
  have notBlank : isBlank c = false := by
    rw [Bool.eq_false_iff]
    intro blank
    have other := continuesToken_of_isBlank blank
    simp [continuesToken, digit] at other
  rw [step_ordinary cs notBlank (not_mem_special digit (by decide)), if_pos digit]

theorem step_minus {c : Char} (digit : isAsciiDigit c = true) (cs : List Char) :
    step '-' (c :: cs) = numberStep true 1 (c :: cs) := by
  have notMinus : c ≠ '-' := by
    rintro rfl
    exact absurd digit (by decide)
  rw [step, no_pair (by decide) (c :: cs)]
  simp only [List.head?_cons, Option.some.injEq, notMinus, Option.any_some, digit, and_false,
    if_false, and_true, if_true]
  rfl

theorem fractionDigits_of_ne {rest : List Char} (noPoint : rest.head? ≠ some '.') :
    fractionDigits rest = [] := by
  unfold fractionDigits
  split
  · exact absurd rfl noPoint
  · rfl

theorem numberStep_whole {negative : Bool} {before : Nat} {digits rest : List Char}
    (all : ∀ c ∈ digits, isAsciiDigit c = true) (short : digits.length ≤ maxWholeDigits)
    (stop : ∀ c ∈ rest.head?, isAsciiDigit c = false) (noPoint : rest.head? ≠ some '.') :
    numberStep negative before (digits ++ rest) =
      .token (.number (.int (Numeral.wholeValue ⟨negative, digitValues digits, none, none⟩)))
        (before + digits.length - 1) := by
  simp only [numberStep, asciiDigits_append all stop, List.drop_left,
    fractionDigits_of_ne noPoint, List.isEmpty_nil, if_true, if_pos short]

theorem numberStep_decimal {negative : Bool} {before : Nat} {digits fraction rest : List Char}
    (all : ∀ c ∈ digits, isAsciiDigit c = true) (nonempty : fraction ≠ [])
    (allFraction : ∀ c ∈ fraction, isAsciiDigit c = true)
    (stop : ∀ c ∈ rest.head?, isAsciiDigit c = false) :
    numberStep negative before (digits ++ '.' :: (fraction ++ rest)) =
      .token
        (.number (.real (Numeral.realValue
          ⟨negative, digitValues digits, some (digitValues fraction), none⟩)))
        (before + digits.length + fraction.length) := by
  have notEmpty : fraction.isEmpty = false := by simpa using nonempty
  have point : ∀ c ∈ ('.' :: (fraction ++ rest)).head?, isAsciiDigit c = false := by
    rintro _ ⟨⟩
    decide
  simp only [numberStep, asciiDigits_append all point, List.drop_left, fractionDigits,
    asciiDigits_append allFraction stop, notEmpty, Bool.false_eq_true, if_false]

theorem step_signed {negative : Bool} {digits rest more : List Char} {c : Char}
    (nonempty : digits ≠ []) (all : ∀ d ∈ digits, isAsciiDigit d = true)
    (split : minus negative ++ (digits ++ rest) = c :: more) :
    step c more = numberStep negative (minus negative).length (digits ++ rest) := by
  obtain ⟨d, others, rfl⟩ := List.exists_cons_of_ne_nil nonempty
  have digit := all d List.mem_cons_self
  cases negative with
  | false =>
    obtain ⟨rfl, rfl⟩ : d = c ∧ others ++ rest = more := List.cons.inj split
    exact step_digit digit (others ++ rest)
  | true =>
    obtain ⟨rfl, rfl⟩ : '-' = c ∧ d :: others ++ rest = more := List.cons.inj split
    exact step_minus digit (others ++ rest)

theorem NumberText.step_append {c : Char} {more rest : List Char} {n : Number}
    (spells : NumberText (c :: more) n) (separated : Separated rest) :
    step c (more ++ rest) = .token (.number n) more.length := by
  have stop := separated.not_isAsciiDigit
  have noPoint := separated.head?_ne (c := '.') (by decide)
  generalize text : c :: more = cs at spells
  have behind : c :: (more ++ rest) = cs ++ rest := by rw [← text]; rfl
  have length := congrArg List.length text
  cases spells with
  | @whole negative digits nonempty all short =>
    rw [List.append_assoc] at behind
    rw [step_signed nonempty all behind.symm, numberStep_whole all short stop noPoint]
    simp only [List.length_append, List.length_cons] at length
    congr 1
    omega
  | @decimal negative digits fraction nonempty someFraction all allFraction =>
    rw [List.append_assoc, List.append_assoc, List.cons_append] at behind
    rw [step_signed nonempty all behind.symm,
      numberStep_decimal all someFraction allFraction stop]
    simp only [List.length_append, List.length_cons] at length
    congr 1
    omega

/-! ## Lexemes -/

/-- A lexeme in front of a separated text is read as its token. -/
theorem Lexeme.step_append {body : Body} {c : Char} {more rest : List Char}
    (lexeme : Lexeme body (c :: more)) (separated : Separated rest) :
    step c (more ++ rest) = .token body more.length := by
  cases lexeme with
  | pair pair => exact step_pair pair rest
  | sign sign => exact step_sign sign (separated.single c)
  | text isQuote forms =>
    have closes : rest.head? ≠ some c := by
      rcases isQuote with rfl | rfl <;> exact separated.head?_ne (by decide)
    simpa using step_text isQuote forms closes
  | number spells => exact spells.step_append separated
  | quoted nonempty closed => simpa using step_quoted nonempty closed rest
  | word starts all => exact step_word starts all separated.not_continuesWord

/-! ## What is read is a lexeme -/

theorem textInside_of_scanText {quote : Char} {cs content : List Char} {n : Nat}
    (scanned : scanText quote cs = some (content, n)) :
    ∃ inside, TextInside quote inside content ∧ cs.take n = inside ++ [quote] := by
  fun_induction scanText quote cs generalizing content n with
  | case1 => cases scanned
  | case2 =>
    cases scanned
    exact ⟨[], .nil, rfl⟩
  | case3 => cases scanned
  | case4 rest ih =>
    obtain ⟨⟨content, n⟩, inner, ⟨⟩⟩ := Option.map_eq_some_iff.1 scanned
    obtain ⟨inside, forms, taken⟩ := ih inner
    exact ⟨quote :: quote :: inside, .doubled forms, by simp [taken]⟩
  | case5 d rest notQuote =>
    cases scanned
    exact ⟨[], .nil, rfl⟩
  | case6 d rest notQuote ih =>
    obtain ⟨⟨content, n⟩, inner, ⟨⟩⟩ := Option.map_eq_some_iff.1 scanned
    obtain ⟨inside, forms, taken⟩ := ih inner
    exact ⟨'\\' :: d :: inside, .escaped (Ne.symm notQuote) forms, by simp [taken]⟩
  | case7 c d rest notQuote notBackslash ih =>
    obtain ⟨⟨content, n⟩, inner, ⟨⟩⟩ := Option.map_eq_some_iff.1 scanned
    obtain ⟨inside, forms, taken⟩ := ih inner
    exact ⟨c :: inside, .plain notQuote notBackslash forms, by simp [taken]⟩

theorem eq_point_of_fractionDigits {cs : List Char} (nonempty : fractionDigits cs ≠ []) :
    ∃ rest, cs = '.' :: rest ∧ fractionDigits cs = asciiDigits rest := by
  unfold fractionDigits at nonempty ⊢
  split at nonempty
  · exact ⟨_, rfl, rfl⟩
  · exact absurd rfl nonempty

theorem numberText_of_numberStep (negative : Bool) {cs : List Char} {body : Body} {extra : Nat}
    (digit : cs.head?.any isAsciiDigit = true)
    (read : numberStep negative (minus negative).length cs = .token body extra) :
    ∃ n, body = .number n ∧
      NumberText (minus negative ++ cs.take (extra + 1 - (minus negative).length)) n := by
  have all : ∀ {cs : List Char}, ∀ c ∈ asciiDigits cs, isAsciiDigit c = true :=
    fun _ member => List.mem_takeWhile_imp member
  have nonempty : asciiDigits cs ≠ [] := by
    cases cs with
    | nil => cases digit
    | cons c cs =>
      have first : isAsciiDigit c = true := digit
      simp [asciiDigits, first]
  have positive := List.length_pos_iff.2 nonempty
  have digits : cs.take (asciiDigits cs).length = asciiDigits cs := take_takeWhile _ cs
  unfold numberStep at read
  simp only at read
  split at read
  next noFraction =>
    split at read
    next short =>
      cases read
      refine ⟨_, rfl, ?_⟩
      rw [show (minus negative).length + (asciiDigits cs).length - 1 + 1 -
        (minus negative).length = (asciiDigits cs).length by omega, digits]
      exact .whole nonempty all short
    next => cases read
  next fraction =>
    cases read
    have someFraction : fractionDigits (cs.drop (asciiDigits cs).length) ≠ [] := by
      simpa using fraction
    obtain ⟨rest, behind, same⟩ := eq_point_of_fractionDigits someFraction
    have taken : cs.take ((asciiDigits cs).length + ((asciiDigits rest).length + 1)) =
        asciiDigits cs ++ '.' :: asciiDigits rest := by
      rw [List.take_add, digits, behind, List.take_succ_cons]
      exact congrArg (asciiDigits cs ++ '.' :: ·) (take_takeWhile _ rest)
    rw [same] at someFraction ⊢
    refine ⟨_, rfl, ?_⟩
    rw [show (minus negative).length + (asciiDigits cs).length + (asciiDigits rest).length + 1 -
      (minus negative).length = (asciiDigits cs).length + ((asciiDigits rest).length + 1) by omega,
      taken]
    exact .decimal nonempty someFraction all all

theorem exists_backQuote {cs : List Char}
    (closed : (cs.takeWhile (· != backQuote)).length ≠ cs.length) :
    ∃ rest, cs = cs.takeWhile (· != backQuote) ++ backQuote :: rest := by
  have split : cs.takeWhile (· != backQuote) ++ cs.dropWhile (· != backQuote) = cs :=
    List.takeWhile_append_dropWhile
  cases behind : cs.dropWhile (· != backQuote) with
  | nil =>
    rw [behind, List.append_nil] at split
    exact absurd (congrArg List.length split) closed
  | cons d rest =>
    have stop := List.head?_dropWhile_not (· != backQuote) cs
    rw [behind] at stop
    have same : d = backQuote := by simpa using stop
    rw [behind, same] at split
    exact ⟨rest, split.symm⟩

theorem lexeme_of_quotedNameStep {cs : List Char} {body : Body} {extra : Nat}
    (read : quotedNameStep cs = .token body extra) :
    Lexeme body (backQuote :: cs.take extra) := by
  unfold quotedNameStep at read
  simp only at read
  split at read
  · cases read
  next closed =>
    split at read
    · cases read
    next notEmpty =>
      cases read
      obtain ⟨rest, split⟩ := exists_backQuote closed
      have taken : cs.take ((cs.takeWhile (· != backQuote)).length + 1) =
          cs.takeWhile (· != backQuote) ++ [backQuote] :=
        (congrArg (List.take _) split).trans (List.take_length_add_append 1)
      rw [taken]
      refine .quoted (by simpa using notEmpty) fun member => ?_
      have other := List.mem_takeWhile_imp member
      simp at other

/-- Whatever is read as a token is a lexeme of it. -/
theorem lexeme_of_step {c : Char} {cs : List Char} {body : Body} {extra : Nat}
    (read : step c cs = .token body extra) : Lexeme body (c :: cs.take extra) := by
  unfold step at read
  split at read
  · cases read
  split at read
  · cases read
  split at read
  next op front =>
    cases read
    obtain ⟨d, isHead, pair⟩ := Option.bind_eq_some_iff.1 front
    obtain ⟨rest, rfl⟩ := List.head?_eq_some_iff.1 isHead
    exact .pair pair
  split at read
  next body sign =>
    cases read
    exact .sign sign
  split at read
  next isQuote =>
    split at read
    next content n scanned =>
      cases read
      obtain ⟨inside, forms, taken⟩ := textInside_of_scanText scanned
      rw [taken]
      exact .text isQuote forms
    next => cases read
  split at read
  next digit =>
    obtain ⟨n, rfl, spells⟩ := numberText_of_numberStep false (by simpa using digit) read
    exact .number spells
  split at read
  next isMinus =>
    obtain ⟨rfl, digit⟩ := isMinus
    obtain ⟨n, rfl, spells⟩ := numberText_of_numberStep true digit read
    exact .number spells
  split at read
  next isBackQuote =>
    subst isBackQuote
    exact lexeme_of_quotedNameStep read
  split at read
  next starts =>
    cases read
    rw [take_takeWhile]
    exact .word starts fun d member => List.mem_takeWhile_imp member
  next => cases read

end LogSelect.Token

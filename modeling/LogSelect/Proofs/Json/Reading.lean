import Mathlib.Data.List.DropRight
import LogSelect.Proofs.Json.Grammar
import LogSelect.Proofs.Text.Stretch

/-!
The reader takes every JSON text for what it denotes, but for whole numbers of too many digits.

Behind a phrase stands what cannot continue a number, so the reader stops where the phrase ends.  A
phrase of `n` characters costs no more than `2 * n` units of fuel, and a list of members one more.
-/

namespace LogSelect.Json

variable {cs rest behind : List Char} {d : Datum} {allowed : Numeral → Prop}

/-! ## Blanks -/

theorem skipSpace_blank (blank : Blank cs rest) : skipSpace cs = skipSpace rest := by
  induction blank with
  | here _ => rfl
  | pass isBlank _ ih => rw [← ih, skipSpace, List.dropWhile_cons_of_pos isBlank, skipSpace]

theorem skipSpace_of_blank {c : Char} (blank : Blank cs (c :: rest)) (noBlank : isSpace c = false) :
    skipSpace cs = c :: rest := by
  rw [skipSpace_blank blank, skipSpace, List.dropWhile_cons_of_neg (by simp [noBlank])]

theorem Blank.length_le (blank : Blank cs rest) : rest.length ≤ cs.length := by
  induction blank with
  | here _ => exact Nat.le_refl _
  | pass _ _ ih => exact Nat.le_succ_of_le ih

/-! ## Texts -/

theorem takeHex4?_eq_some {code : Nat} (taken : takeHex4? cs = some (code, rest)) :
    ∃ ds, cs = ds ++ rest ∧ ds.length = 4 ∧ (∀ d ∈ ds, (hexDigit? d).isSome = true) ∧
      ∀ other, takeHex4? (ds ++ other) = some (code, other) := by
  unfold takeHex4? at taken
  split at taken
  · simp only [Option.bind_eq_bind, Option.bind_eq_some_iff, Option.pure_def,
      Option.some.injEq, Prod.mk.injEq] at taken
    obtain ⟨a, isA, b, isB, c, isC, d, isD, isCode, rfl⟩ := taken
    refine ⟨[_, _, _, _], rfl, rfl, by simp [isA, isB, isC, isD], fun other => ?_⟩
    simp [takeHex4?, isA, isB, isC, isD, isCode]
  · cases taken

theorem takeUnicodeEscape?_eq_some {c : Char} (taken : takeUnicodeEscape? cs = some (c, rest)) :
    ∃ code mid, takeHex4? cs = some (code, mid) ∧
      (mid = rest ∨ ∃ low behind, mid = '\\' :: 'u' :: behind ∧
        takeHex4? behind = some (low, rest)) := by
  unfold takeUnicodeEscape? at taken
  simp only [Option.bind_eq_bind, Option.bind_eq_some_iff] at taken
  obtain ⟨⟨code, mid⟩, isFirst, taken⟩ := taken
  refine ⟨code, mid, isFirst, ?_⟩
  dsimp only at taken
  split at taken
  · split at taken
    · rename_i low behind isLow
      obtain ⟨-, rfl⟩ := Prod.mk.inj (Option.some.inj taken)
      unfold takeLowSurrogate? at isLow
      split at isLow
      · simp only [Option.bind_eq_bind, Option.bind_eq_some_iff] at isLow
        obtain ⟨⟨low', behind'⟩, isSecond, isLow⟩ := isLow
        dsimp only at isLow
        split at isLow
        · cases isLow
          exact .inr ⟨_, _, rfl, isSecond⟩
        · cases isLow
      · cases isLow
    · exact .inl (Prod.mk.inj (Option.some.inj taken)).2
  · split at taken
    · exact .inl (Prod.mk.inj (Option.some.inj taken)).2
    · exact .inl (Prod.mk.inj (Option.some.inj taken)).2

theorem length_takeHex4? {code : Nat} (taken : takeHex4? cs = some (code, rest)) :
    rest.length < cs.length := by
  obtain ⟨ds, rfl, four, -⟩ := takeHex4?_eq_some taken
  rw [List.length_append]
  omega

theorem length_takeUnicodeEscape? {c : Char} (taken : takeUnicodeEscape? cs = some (c, rest)) :
    rest.length < cs.length := by
  obtain ⟨code, mid, isFirst, same | ⟨low, behind, rfl, isSecond⟩⟩ :=
    takeUnicodeEscape?_eq_some taken
  · exact same ▸ length_takeHex4? isFirst
  · have first := length_takeHex4? isFirst
    have second := length_takeHex4? isSecond
    simp only [List.length_cons] at first
    omega

theorem Content.length_lt {s : List Char} (content : Content cs s rest) :
    rest.length < cs.length := by
  induction content with
  | close => exact Nat.lt_succ_self _
  | plain _ _ _ _ ih => exact Nat.lt_succ_of_lt ih
  | short _ _ ih => exact Nat.lt_succ_of_lt (Nat.lt_succ_of_lt ih)
  | numeric taken _ ih =>
    have := length_takeUnicodeEscape? taken
    simp only [List.length_cons]
    omega

theorem textContent_of_content {s : List Char} (content : Content cs s rest) {fuel : Nat}
    (enough : cs.length ≤ fuel) (before : List Char) :
    textContent fuel before cs = .ok (String.ofList (before.reverse ++ s), rest) := by
  induction content generalizing fuel before with
  | close =>
    obtain ⟨fuel, rfl⟩ := Nat.exists_eq_add_of_le' enough
    simp [textContent]
  | @plain c _ s _ noQuote noBackslash printable _ ih =>
    obtain ⟨fuel, rfl⟩ := Nat.exists_eq_add_of_le' enough
    have next := @ih (fuel + _) (Nat.le_add_left _ _) (c :: before)
    simp only [List.length_cons, ← Nat.add_assoc, textContent, noQuote, noBackslash, if_false,
      Nat.not_lt.2 printable, next, List.reverse_cons, List.append_assoc, List.singleton_append]
  | @short e c cs s _ isEscape _ ih =>
    obtain ⟨fuel, rfl⟩ := Nat.exists_eq_add_of_le' enough
    have next := @ih (fuel + cs.length + 1) (by omega) (c :: before)
    have notNumeric : e ≠ 'u' := by
      rintro rfl
      cases isEscape
    simp only [List.length_cons, ← Nat.add_assoc, textContent, Char.reduceEq, if_false, if_true,
      isEscape, next, List.reverse_cons, List.append_assoc, List.singleton_append]
  | @numeric c cs behind s _ taken _ ih =>
    obtain ⟨fuel, rfl⟩ := Nat.exists_eq_add_of_le' enough
    have shorter := length_takeUnicodeEscape? taken
    have next := @ih (fuel + cs.length + 1) (by omega) (c :: before)
    simp only [List.length_cons, ← Nat.add_assoc, textContent, Char.reduceEq, if_false, if_true,
      taken, next, List.reverse_cons, List.append_assoc, List.singleton_append]

/-! ## Numbers -/

/-- What can stand behind a number: nothing that continues it. -/
def Follows (rest : List Char) : Prop :=
  ∀ c ∈ rest.head?, isAsciiDigit c = false ∧ c ≠ '.' ∧ c ≠ 'e' ∧ c ≠ 'E'

theorem takeFraction_append {fraction : List Char} {values : Option (List Nat)}
    (isFraction : IsFraction fraction values)
    (stops : ∀ c ∈ rest.head?, isAsciiDigit c = false ∧ c ≠ '.') :
    takeFraction (fraction ++ rest) = (values, rest) := by
  cases isFraction with
  | nothing =>
    cases rest with
    | nil => rfl
    | cons c rest =>
      have noPoint := (stops c rfl).2
      unfold takeFraction
      split
      · rename_i isPoint
        cases isPoint
        exact absurd rfl noPoint
      · rfl
  | @point ds areDigits =>
    have taken := asciiDigits_append areDigits.2 fun c first => (stops c first).1
    have nonempty : ds.isEmpty = false := by simpa using areDigits.1
    simp [takeFraction, taken, nonempty]

theorem takeSign_digits {ds : List Char} (areDigits : AreDigits ds) :
    Numeral.takeSign (ds ++ rest) = (false, ds ++ rest) := by
  obtain ⟨d, more, rfl⟩ := List.exists_cons_of_ne_nil areDigits.1
  have digit := areDigits.2 d List.mem_cons_self
  rw [List.cons_append]
  unfold Numeral.takeSign
  split
  · rename_i isPlus
    cases isPlus
    cases digit
  · rename_i isMinus
    cases isMinus
    cases digit
  · rfl

theorem takeSign_append {sign ds : List Char} {negative : Bool} (isSign : IsSign sign negative)
    (areDigits : AreDigits ds) :
    Numeral.takeSign (sign ++ (ds ++ rest)) = (negative, ds ++ rest) := by
  cases isSign with
  | nothing =>
    rw [List.nil_append]
    exact takeSign_digits areDigits
  | plus => rfl
  | minus => rfl

theorem takeExponent_append {exponent : List Char} {power : Option (Bool × List Nat)}
    (isExponent : IsExponent exponent power) (follows : Follows rest) :
    takeExponent (exponent ++ rest) = (power, rest) := by
  cases isExponent with
  | nothing =>
    cases rest with
    | nil => rfl
    | cons c rest =>
      have noPower : ¬ (c = 'e' ∨ c = 'E') := by
        have stops := follows c rfl
        exact fun isPower => isPower.elim stops.2.2.1 stops.2.2.2
      simp [takeExponent, noPower]
  | @power e sign negative ds isE isSign areDigits =>
    have taken := asciiDigits_append areDigits.2 fun c first => (follows c first).1
    have nonempty : ds.isEmpty = false := by simpa using areDigits.1
    simp [takeExponent, isE, takeSign_append isSign areDigits, taken, nonempty]

theorem stops_fraction {fraction : List Char} {values : Option (List Nat)}
    (isFraction : IsFraction fraction values) (stops : ∀ c ∈ rest.head?, isAsciiDigit c = false) :
    ∀ c ∈ (fraction ++ rest).head?, isAsciiDigit c = false := by
  cases isFraction with
  | nothing => exact stops
  | point _ =>
    rintro _ ⟨⟩
    rfl

theorem stops_exponent {exponent : List Char} {power : Option (Bool × List Nat)}
    (isExponent : IsExponent exponent power) (follows : Follows rest) :
    ∀ c ∈ (exponent ++ rest).head?, isAsciiDigit c = false ∧ c ≠ '.' := by
  cases isExponent with
  | nothing => exact fun c first => ⟨(follows c first).1, (follows c first).2.1⟩
  | power isE _ _ =>
    rintro _ ⟨⟩
    rcases isE with rfl | rfl
    · exact ⟨rfl, by decide⟩
    · exact ⟨rfl, by decide⟩

def numberOutcome (numeral : Numeral) (rest : List Char) : Reading Datum :=
  if IsLong numeral then .error (.numeralTooLong numeral.whole.length)
  else .ok (.number (numberOf numeral), rest)

theorem number_append {whole fraction exponent : List Char} {values : Option (List Nat)}
    {power : Option (Bool × List Nat)} (negative : Bool) (isWhole : IsWhole whole)
    (isFraction : IsFraction fraction values) (isExponent : IsExponent exponent power)
    (follows : Follows rest) :
    number negative (whole ++ (fraction ++ (exponent ++ rest))) =
      numberOutcome ⟨negative, digitValues whole, values, power⟩ rest := by
  have behindExponent := takeExponent_append isExponent follows
  have stops := stops_exponent isExponent follows
  have behindFraction := takeFraction_append isFraction stops
  have isRead : (if (whole ++ (fraction ++ (exponent ++ rest))).head? = some '0' then ['0']
      else asciiDigits (whole ++ (fraction ++ (exponent ++ rest)))) = whole := by
    cases isWhole with
    | zero => rfl
    | digits areDigits noZero =>
      have sameHead : (whole ++ (fraction ++ (exponent ++ rest))).head? = whole.head? := by
        obtain ⟨c, more, rfl⟩ := List.exists_cons_of_ne_nil areDigits.1
        rfl
      rw [sameHead, if_neg noZero]
      exact asciiDigits_append areDigits.2
        (stops_fraction isFraction fun c first => (stops c first).1)
  have nonempty : whole.isEmpty = false := by simpa using isWhole.areDigits.1
  have size : (digitValues whole).length = whole.length := length_digitValues whole
  unfold number numberOutcome
  simp only [isRead, nonempty, List.drop_left, behindFraction, behindExponent, numberOf]
  cases values with
  | some _ => simp [IsLong]
  | none =>
    cases power with
    | some _ => simp [IsLong]
    | none =>
      by_cases short : whole.length ≤ maxWholeDigits
      · simp [IsLong, size, short, Nat.not_lt.2 short]
      · simp [IsLong, size, short, Nat.not_le.1 short]

/-! ## Phrases -/

/-- A reading that yields what is denoted, or refuses a numeral for its length. -/
def Reaches {α : Type} (allowed : Numeral → Prop) (reading : Reading α) (a : α)
    (rest : List Char) : Prop :=
  reading = .ok (a, rest) ∨ ∃ numeral, allowed numeral ∧ IsLong numeral ∧
    reading = .error (.numeralTooLong numeral.whole.length)

theorem Reaches.map {α β : Type} {reading : Reading α} {a : α}
    (reaches : Reaches allowed reading a rest) (f : α → β) :
    Reaches allowed (reading.map fun (a, rest) => (f a, rest)) (f a) rest := by
  rcases reaches with rfl | ⟨numeral, isAllowed, long, rfl⟩
  · exact .inl rfl
  · exact .inr ⟨numeral, isAllowed, long, rfl⟩

def StartsNumber (cs : List Char) : Prop :=
  ∃ c more, cs = c :: more ∧
    (isAsciiDigit c = true ∨ c = '-' ∧ ∃ d ∈ more.head?, isAsciiDigit d = true)

theorem IsNumeral.starts {numeral : Numeral} (isNumeral : IsNumeral cs numeral)
    (rest : List Char) : StartsNumber (cs ++ rest) := by
  cases isNumeral with
  | @intro negative whole fraction exponent _ _ isWhole _ _ =>
    obtain ⟨d, more, rfl⟩ := List.exists_cons_of_ne_nil isWhole.areDigits.1
    have digit := isWhole.areDigits.2 d List.mem_cons_self
    cases negative with
    | false => exact ⟨d, _, rfl, .inl digit⟩
    | true => exact ⟨'-', _, rfl, .inr ⟨rfl, d, rfl, digit⟩⟩

theorem named?_number (starts : StartsNumber cs) : named? cs = none := by
  have letters : ∀ entry ∈ names, ∃ first more, entry.1.toList = first :: more ∧
      isAsciiDigit first = false ∧ (first = '-' → more.head? = some 'I') := by
    simp only [names, List.forall_mem_cons, List.not_mem_nil, false_imp_iff, implies_true, and_true]
    exact ⟨⟨_, _, rfl, rfl, nofun⟩, ⟨_, _, rfl, rfl, nofun⟩, ⟨_, _, rfl, rfl, nofun⟩,
      ⟨_, _, rfl, rfl, nofun⟩, ⟨_, _, rfl, rfl, nofun⟩, ⟨_, _, rfl, rfl, fun _ => rfl⟩⟩
  obtain ⟨c, cs, rfl, number⟩ := starts
  rw [named?, Option.map_eq_none_iff, List.find?_eq_none]
  intro entry member isPrefix
  obtain ⟨first, more, split, notDigit, minus⟩ := letters entry member
  rw [split, List.isPrefixOf_iff_prefix, List.cons_prefix_cons] at isPrefix
  obtain ⟨rfl, isPrefix⟩ := isPrefix
  rcases number with digit | ⟨isMinus, d, isNext, digit⟩
  · exact absurd digit (by simp [notDigit])
  · obtain ⟨tail, rfl⟩ := isPrefix
    rw [List.head?_append, minus isMinus] at isNext
    cases isNext
    cases digit

theorem datum_numeral {numeral : Numeral} (isNumeral : IsNumeral cs numeral)
    (follows : Follows rest) (fuel : Nat) :
    datum (fuel + 1) (cs ++ rest) = numberOutcome numeral rest := by
  have starts := isNumeral.starts rest
  have noName := named?_number starts
  cases isNumeral with
  | @intro negative whole fraction exponent values power isWhole isFraction isExponent =>
    have isRead := number_append negative isWhole isFraction isExponent follows
    obtain ⟨d, more, rfl⟩ := List.exists_cons_of_ne_nil isWhole.areDigits.1
    have digit := isWhole.areDigits.2 d List.mem_cons_self
    cases negative with
    | true =>
      simp only [if_true, List.cons_append, List.nil_append, List.append_assoc] at *
      simp [datum, noName, isRead]
    | false =>
      have other : ∀ c, isAsciiDigit c = false → d ≠ c := by
        rintro c notDigit rfl
        simp [notDigit] at digit
      simp only [Bool.false_eq_true, if_false, List.nil_append, List.cons_append,
        List.append_assoc] at *
      simp [datum, noName, isRead, other '"' rfl, other '[' rfl, other '\x7b' rfl, other '-' rfl]

variable {phrase : Phrase}

theorem length_name {name colon value front s : List Char} (quote : Blank cs ('"' :: name))
    (isName : Content name s colon) (isColon : Blank colon (':' :: value))
    (isFront : Blank value front) : name.length < cs.length ∧ front.length + 3 ≤ cs.length := by
  have quote := quote.length_le
  have name := isName.length_lt
  have colon := isColon.length_le
  have front := isFront.length_le
  simp only [List.length_cons] at quote colon
  omega

theorem Spells.length_lt (spells : Spells allowed cs phrase rest) : rest.length < cs.length := by
  induction spells with
  | null | isTrue | isFalse =>
    simp only [List.length_cons]
    omega
  | number isNumeral _ =>
    obtain ⟨c, more, split, -⟩ := isNumeral.starts []
    rw [List.append_nil] at split
    simp only [split, List.length_append, List.length_cons]
    omega
  | text content => exact Nat.lt_succ_of_lt content.length_lt
  | emptyList blank | emptyMap blank => exact Nat.lt_succ_of_lt blank.length_le
  | list _ ih | map _ ih => exact Nat.lt_succ_of_lt ih
  | lastMember front _ behind ih =>
    have front := front.length_le
    have behind := behind.length_le
    simp only [List.length_cons] at behind
    omega
  | member front _ behind _ ih ihNext =>
    have front := front.length_le
    have behind := behind.length_le
    simp only [List.length_cons] at behind
    omega
  | lastEntry quote name colon front _ behind ih =>
    have name := length_name quote name colon front
    have behind := behind.length_le
    simp only [List.length_cons] at behind
    omega
  | entry quote name colon front _ behind _ ih ihNext =>
    have name := length_name quote name colon front
    have behind := behind.length_le
    simp only [List.length_cons] at behind
    omega

theorem Spells.head (spells : Spells allowed cs (.datum d) rest) :
    ∃ c more, cs = c :: more ∧ isSpace c = false ∧ c ≠ ']' ∧ c ≠ '\x7d' := by
  cases spells with
  | @number cs _ _ isNumeral _ =>
    obtain ⟨c, more, split, number⟩ := isNumeral.starts rest
    have other : ∀ c', isAsciiDigit c' = false → '-' ≠ c' → c ≠ c' := by
      rintro c' notDigit notMinus rfl
      rcases number with digit | ⟨isMinus, -⟩
      · simp [notDigit] at digit
      · exact notMinus isMinus.symm
    refine ⟨c, more, split, ?_, other _ rfl (by decide), other _ rfl (by decide)⟩
    simp [isSpace, other ' ' rfl, other '\n' rfl, other '\t' rfl, other '\r' rfl]
  | _ => exact ⟨_, _, rfl, rfl, by decide, by decide⟩

theorem follows_of_blank (blank : Blank cs rest)
    (delimits : ∀ c ∈ rest.head?, c ∈ [',', ']', '\x7d']) : Follows cs := by
  have stops : ∀ c' ∈ [' ', '\n', '\t', '\r', ',', ']', '\x7d'],
      isAsciiDigit c' = false ∧ c' ≠ '.' ∧ c' ≠ 'e' ∧ c' ≠ 'E' := by
    simp [isAsciiDigit]
  cases blank with
  | here =>
    exact fun c first => stops c (List.mem_append_right [' ', '\n', '\t', '\r'] (delimits c first))
  | @pass c' _ _ isBlank _ =>
    rintro _ ⟨⟩
    have blank : c' ∈ [' ', '\n', '\t', '\r'] := by simpa [isSpace, or_assoc] using isBlank
    exact stops c' (List.mem_append_left [',', ']', '\x7d'] blank)

theorem Spells.skipSpace_of_front {front : List Char}
    (spells : Spells allowed front (.datum d) rest) (blank : Blank cs front) :
    skipSpace cs = front := by
  obtain ⟨c, more, rfl, noBlank, -⟩ := spells.head
  exact skipSpace_of_blank blank noBlank

theorem Spells.members_head {items : List Datum}
    (spells : Spells allowed cs (.members items) rest) :
    ∃ c more, skipSpace cs = c :: more ∧ c ≠ ']' := by
  cases spells with
  | lastMember isFront spells _ | member isFront spells _ _ =>
    obtain ⟨c, more, split, -, noBracket, -⟩ := spells.head
    exact ⟨c, more, (spells.skipSpace_of_front isFront).trans split, noBracket⟩

theorem Spells.entries_head {pairs : List (Datum × Datum)}
    (spells : Spells allowed cs (.entries pairs) rest) : ∃ more, skipSpace cs = '"' :: more := by
  cases spells with
  | lastEntry quote _ _ _ _ _ | entry quote _ _ _ _ _ _ =>
    exact ⟨_, skipSpace_of_blank quote rfl⟩

theorem members_skipSpace (fuel : Nat) (before : List Datum) (cs : List Char) :
    members fuel before (skipSpace cs) = members fuel before cs := by
  cases fuel with
  | zero => rfl
  | succ fuel => simp only [members, skipSpace, List.dropWhile_idempotent]

theorem entries_skipSpace (fuel : Nat) (before : List (Datum × Datum)) (cs : List Char) :
    entries fuel before (skipSpace cs) = entries fuel before cs := by
  cases fuel with
  | zero => rfl
  | succ fuel => simp only [entries, skipSpace, List.dropWhile_idempotent]

def IsTaken (allowed : Numeral → Prop) (cs : List Char) (rest : List Char) : Phrase → Prop
  | .datum d => Follows rest → ∀ fuel, 2 * cs.length ≤ fuel →
      Reaches allowed (datum fuel cs) d rest
  | .members items => ∀ fuel before, 2 * cs.length + 1 ≤ fuel →
      Reaches allowed (members fuel before cs) (before.reverse ++ items) rest
  | .entries pairs => ∀ fuel before, 2 * cs.length + 1 ≤ fuel →
      Reaches allowed (entries fuel before cs) (before.reverse ++ pairs) rest

theorem isTaken_of_spells (spells : Spells allowed cs phrase rest) :
    IsTaken allowed cs rest phrase := by
  induction spells with
  | null | isTrue | isFalse =>
    rintro follows (_ | fuel) enough
    · simp at enough
    · exact .inl rfl
  | @number cs numeral rest isNumeral isAllowed =>
    rintro follows (_ | fuel) enough
    · obtain ⟨c, more, split, -⟩ := isNumeral.starts rest
      simp [split] at enough
    · rw [datum_numeral isNumeral follows, numberOutcome]
      split
      · rename_i long
        exact .inr ⟨numeral, isAllowed, long, rfl⟩
      · exact .inl rfl
  | @text cs s rest content =>
    rintro follows (_ | fuel) enough
    · simp at enough
    · have short : cs.length ≤ fuel + 1 := by
        simp only [List.length_cons] at enough
        omega
      have isRead := textContent_of_content content short []
      exact .inl (by simp [datum, isRead, Except.map])
  | emptyList blank =>
    rintro follows (_ | fuel) enough
    · simp at enough
    · exact .inl (by simp [datum, skipSpace_of_blank blank rfl])
  | emptyMap blank =>
    rintro follows (_ | fuel) enough
    · simp at enough
    · exact .inl (by simp [datum, skipSpace_of_blank blank rfl])
  | @list cs items rest spells ih =>
    rintro follows (_ | fuel) enough
    · simp at enough
    · have reaches := ih fuel [] (by simp only [List.length_cons] at enough; omega)
      obtain ⟨c, more, isFront, noBracket⟩ := spells.members_head
      rw [← members_skipSpace, isFront] at reaches
      simp only [datum, isFront]
      split
      · rename_i isBracket
        cases isBracket
        exact absurd rfl noBracket
      · exact reaches.map Datum.list
  | @map cs pairs rest spells ih =>
    rintro follows (_ | fuel) enough
    · simp at enough
    · have reaches := ih fuel [] (by simp only [List.length_cons] at enough; omega)
      obtain ⟨more, isFront⟩ := spells.entries_head
      rw [← entries_skipSpace, isFront] at reaches
      simp only [datum, isFront]
      exact reaches.map Datum.mapOf
  | lastMember isFront spells isBehind ih =>
    rintro (_ | fuel) before enough
    · simp at enough
    · have shorter := isFront.length_le
      have reaches := ih (follows_of_blank isBehind (by simp)) fuel (by omega)
      simp only [members, spells.skipSpace_of_front isFront]
      rcases reaches with isRead | ⟨numeral, isAllowed, long, fails⟩
      · simp only [isRead, skipSpace_of_blank isBehind rfl]
        exact .inl (by simp)
      · simp only [fails]
        exact .inr ⟨numeral, isAllowed, long, rfl⟩
  | @member _ _ d _ _ items rest isFront spells isBehind _ ih ihNext =>
    rintro (_ | fuel) before enough
    · simp at enough
    · have shorter := isFront.length_le
      have shorterBehind := isBehind.length_le
      have shorterFront := spells.length_lt
      have reaches := ih (follows_of_blank isBehind (by simp)) fuel (by omega)
      have others := ihNext fuel (d :: before) (by simp only [List.length_cons] at *; omega)
      simp only [members, spells.skipSpace_of_front isFront]
      rcases reaches with isRead | ⟨numeral, isAllowed, long, fails⟩
      · simp only [isRead, skipSpace_of_blank isBehind rfl]
        simpa using others
      · simp only [fails]
        exact .inr ⟨numeral, isAllowed, long, rfl⟩
  | @lastEntry cs name s colon value front d behind rest quote isName isColon isFront spells
      isBehind ih =>
    rintro (_ | fuel) before enough
    · simp at enough
    · obtain ⟨shorterName, shorter⟩ := length_name quote isName isColon isFront
      have reaches := ih (follows_of_blank isBehind (by simp)) fuel (by omega)
      have nameRead := textContent_of_content isName (show name.length ≤ fuel + 1 by omega) []
      simp only [entries, skipSpace_of_blank quote rfl, nameRead, skipSpace_of_blank isColon rfl,
        spells.skipSpace_of_front isFront]
      rcases reaches with isRead | ⟨numeral, isAllowed, long, fails⟩
      · simp only [isRead, skipSpace_of_blank isBehind rfl]
        exact .inl (by simp)
      · simp only [fails]
        exact .inr ⟨numeral, isAllowed, long, rfl⟩
  | @entry cs name s colon value front d behind next pairs rest quote isName isColon isFront spells
      isBehind _ ih ihNext =>
    rintro (_ | fuel) before enough
    · simp at enough
    · obtain ⟨shorterName, shorter⟩ := length_name quote isName isColon isFront
      have shorterBehind := isBehind.length_le
      have shorterFront := spells.length_lt
      simp only [List.length_cons] at shorterBehind
      have reaches := ih (follows_of_blank isBehind (by simp)) fuel (by omega)
      have others := ihNext fuel ((.text (String.ofList s), d) :: before) (by omega)
      have nameRead := textContent_of_content isName (show name.length ≤ fuel + 1 by omega) []
      simp only [entries, skipSpace_of_blank quote rfl, nameRead, skipSpace_of_blank isColon rfl,
        spells.skipSpace_of_front isFront]
      rcases reaches with isRead | ⟨numeral, isAllowed, long, fails⟩
      · simp only [isRead, skipSpace_of_blank isBehind rfl]
        simpa using others
      · simp only [fails]
        exact .inr ⟨numeral, isAllowed, long, rfl⟩

/-- The reader yields what a text denotes, or refuses a whole number for its length. -/
theorem read_of_denotes {text : String} (denotes : Denotes allowed text d) :
    read text = .ok d ∨ ∃ numeral, allowed numeral ∧ IsLong numeral ∧
      read text = .error (.numeralTooLong numeral.whole.length) := by
  obtain ⟨front, behind, isFront, spells, isBehind⟩ := denotes
  have shorter := isFront.length_le
  have follows : Follows behind := follows_of_blank isBehind nofun
  have reaches := isTaken_of_spells spells follows (2 * text.toList.length + 2) (by omega)
  have atEnd : skipSpace behind = [] := skipSpace_blank isBehind
  simp only [read, spells.skipSpace_of_front isFront]
  rcases reaches with isRead | ⟨numeral, isAllowed, long, fails⟩
  · exact .inl (by simp [isRead, atEnd])
  · simp only [fails]
    exact .inr ⟨numeral, isAllowed, long, rfl⟩

/-- A text that can be read denotes one datum only. -/
theorem IsText.unique {text : String} {d' : Datum} (isText : IsText text d)
    (isRead : read text = .ok d') : d = d' := by
  rcases read_of_denotes isText with same | ⟨numeral, -, -, fails⟩
  · exact Except.ok.inj (same.symm.trans isRead)
  · cases isRead.symm.trans fails

end LogSelect.Json

import LogSelect.Proofs.Calendar.Timestamp
import LogSelect.Proofs.Text.Blank
import LogSelect.Schema.Column

/-!
The texts that a timestamp column takes.

The column spells out every sign for UTC in a text, while only the one at the very end stands for an
offset.  A sign further inside separates date and time, or stands where no timestamp has one; so as
long as there is one, the column takes no timestamp, and what it takes is none.
-/

namespace LogSelect.Column

open Calendar Utf8

variable {front behind cs : List Char}

/-- The sign for UTC at the very end, read as an offset. -/
def spellOutLastZulu (cs : List Char) : List Char :=
  if cs.getLast? = some 'Z' then cs.dropLast ++ ['+', '0', '0', ':', '0', '0'] else cs

/-- A text that is a timestamp, blanks around it apart. -/
def ReadsAsTimestamp (text : String) : Prop :=
  isTimestamp (String.ofList (spellOutLastZulu (strip text.toList))) = true

/-! ## Signs for UTC -/

theorem spellOutZulu_cons_of_ne {c : Char} (other : c ≠ 'Z') (cs : List Char) :
    spellOutZulu (c :: cs) = c :: spellOutZulu cs := by
  simp [spellOutZulu, other]

theorem spellOutZulu_of_not_mem (noZulu : 'Z' ∉ cs) : spellOutZulu cs = cs := by
  induction cs with
  | nil => rfl
  | cons c cs ih =>
    rw [List.mem_cons, not_or] at noZulu
    rw [spellOutZulu_cons_of_ne (Ne.symm noZulu.1), ih noZulu.2]

theorem spellOutZulu_append (front behind : List Char) :
    spellOutZulu (front ++ behind) = spellOutZulu front ++ spellOutZulu behind :=
  List.flatMap_append

/-- Without a sign further inside, the last character alone counts. -/
theorem spellOutZulu_eq_last (noZulu : 'Z' ∉ cs.dropLast) :
    spellOutZulu cs = spellOutLastZulu cs := by
  rcases List.eq_nil_or_concat cs with rfl | ⟨front, c, rfl⟩
  · rfl
  · rw [List.concat_eq_append] at noZulu ⊢
    rw [List.dropLast_concat] at noZulu
    rw [spellOutZulu_append, spellOutZulu_of_not_mem noZulu, spellOutLastZulu,
      List.getLast?_concat, List.dropLast_concat]
    by_cases zulu : c = 'Z'
    · simp [spellOutZulu, zulu]
    · simp [spellOutZulu, zulu]

theorem spellOutLastZulu_append (nonempty : behind ≠ []) (front : List Char) :
    spellOutLastZulu (front ++ behind) = front ++ spellOutLastZulu behind := by
  rw [spellOutLastZulu, spellOutLastZulu, List.getLast?_append_of_ne_nil _ nonempty,
    List.dropLast_append_of_ne_nil nonempty]
  split
  next => rw [List.append_assoc]
  next => rfl

theorem spellOutLastZulu_ne_nil (nonempty : behind ≠ []) : spellOutLastZulu behind ≠ [] := by
  unfold spellOutLastZulu
  split
  next => simp
  next => exact nonempty

theorem mem_of_mem_spellOutLastZulu {c : Char} (member : c ∈ spellOutLastZulu cs)
    (other : c ∉ ['+', '0', '0', ':', '0', '0']) : c ∈ cs := by
  unfold spellOutLastZulu at member
  split at member
  next => exact (List.dropLast_subset cs) ((List.mem_append.1 member).resolve_right other)
  next => exact member

theorem exists_first_zulu (inside : 'Z' ∈ cs.dropLast) :
    ∃ front behind, cs = front ++ 'Z' :: behind ∧ 'Z' ∉ front ∧ behind ≠ [] := by
  have nonempty : cs ≠ [] := by
    rintro rfl
    cases inside
  obtain ⟨front, behind, split, first⟩ := List.eq_append_cons_of_mem inside
  refine ⟨front, behind ++ [cs.getLast nonempty], ?_, first, by simp⟩
  have whole := List.dropLast_append_getLast nonempty
  rw [split, List.append_assoc, List.cons_append] at whole
  exact whole.symm

theorem eq_cons_of_spellOutLastZulu {c : Char} {more : List Char}
    (split : spellOutLastZulu cs = c :: more) (notPlus : c ≠ '+') :
    ∃ rest, cs = c :: rest ∧ spellOutLastZulu rest = more := by
  cases cs with
  | nil => cases split
  | cons d cs =>
    by_cases alone : cs = []
    · subst alone
      unfold spellOutLastZulu at split
      split at split
      next => exact absurd (List.cons.inj split).1.symm notPlus
      next =>
        obtain ⟨rfl, rfl⟩ := List.cons.inj split
        exact ⟨[], rfl, rfl⟩
    · have front := spellOutLastZulu_append alone [d]
      rw [List.singleton_append] at front
      rw [front] at split
      obtain ⟨rfl, isMore⟩ := List.cons.inj split
      exact ⟨cs, rfl, isMore⟩

theorem exists_digits_spellOutZulu {digits rest : List Nat} (areDigits : Digits 2 digits)
    (split : encode (spellOutLastZulu cs) = digits ++ rest) :
    ∃ rest, encode (spellOutZulu cs) = digits ++ rest := by
  obtain ⟨d₁, d₂, rfl⟩ := areDigits.eq_two
  have first : IsDigit d₁ := areDigits.all d₁ (by simp)
  have second : IsDigit d₂ := areDigits.all d₂ (by simp)
  have other {c : Char} {d : Nat} (isDigit : IsDigit d) (same : c.toNat = d) :
      c ≠ '+' ∧ c ≠ 'Z' := by
    subst same
    constructor
    · rintro rfl
      exact absurd isDigit.1 (by decide)
    · rintro rfl
      exact absurd isDigit.2 (by decide)
  unfold IsDigit at first second
  obtain ⟨a, more, isSpelled, isFirst, split⟩ := exists_of_encode_cons (by omega) split
  obtain ⟨b, more', rfl, isSecond, -⟩ := exists_of_encode_cons (by omega) split
  obtain ⟨rest, rfl, isRest⟩ := eq_cons_of_spellOutLastZulu isSpelled (other first isFirst).1
  obtain ⟨rest, rfl, -⟩ := eq_cons_of_spellOutLastZulu isRest (other second isSecond).1
  refine ⟨encode (spellOutZulu rest), ?_⟩
  rw [spellOutZulu_cons_of_ne (other first isFirst).2,
    spellOutZulu_cons_of_ne (other second isSecond).2, encode_cons, encode_cons,
    encodeChar_ascii (by omega), encodeChar_ascii (by omega), isFirst, isSecond]
  rfl

/-- With a sign further inside, the two spellings are not both timestamps. -/
theorem not_both_timestamps (inside : 'Z' ∈ cs.dropLast) (noNul : '\x00' ∉ cs) :
    ¬ (isTimestamp (String.ofList (spellOutZulu cs)) = true ∧
      isTimestamp (String.ofList (spellOutLastZulu cs)) = true) := by
  rintro ⟨taken, reads⟩
  obtain ⟨front, behind, rfl, noZulu, nonempty⟩ := exists_first_zulu inside
  rw [spellOutLastZulu_append (List.cons_ne_nil _ _)] at reads
  have last := spellOutLastZulu_append nonempty ['Z']
  rw [List.singleton_append, List.singleton_append] at last
  rw [last] at reads
  have noNulReads : '\x00' ∉ front ++ spellOutLastZulu behind := by
    intro member
    rcases List.mem_append.1 member with inFront | inBehind
    · exact noNul (List.mem_append_left _ inFront)
    · have inText := mem_of_mem_spellOutLastZulu inBehind (by decide)
      exact noNul (List.mem_append_right _ (List.mem_cons_of_mem _ inText))
  obtain ⟨form, time⟩ :=
    date_of_isTimestamp noZulu (spellOutLastZulu_ne_nil nonempty) noNulReads reads
  obtain ⟨digits, rest, areDigits, split⟩ := exists_digits_of_isTime time
  obtain ⟨rest', spelled⟩ := exists_digits_spellOutZulu areDigits split
  have refused := isTimestamp_offset_inside form areDigits spelled
  have whole : spellOutZulu (front ++ 'Z' :: behind) =
      front ++ (['+', '0', '0', ':', '0', '0'] ++ spellOutZulu behind) := by
    rw [spellOutZulu_append, spellOutZulu_of_not_mem noZulu]
    rfl
  rw [whole, refused] at taken
  cases taken

/-! ## Conversion -/

theorem convert_eq_ok_iff {column : Column} (isDatetime : column.type = .datetime) {text : String} :
    column.convert text = .ok (.text text) ↔
      isTimestamp (String.ofList (spellOutZulu (strip text.toList))) = true := by
  simp only [convert, isDatetime, convertChecked]
  split
  next passes => simp only [passes]
  next fails => simp only [fails, reduceCtorEq]

/-- A timestamp column keeps a text or refuses it.  Unless a sign for UTC stands further inside, it
keeps the timestamps; otherwise it keeps no text that is one.  A text with a NUL is left out, as a
timestamp may end in front of one. -/
theorem convert_datetime {column : Column} (isDatetime : column.type = .datetime) (text : String) :
    (column.convert text = .ok (.text text) ∨
        column.convert text = .error (.mismatch column.name .datetime text)) ∧
      ('Z' ∉ (strip text.toList).dropLast →
        (column.convert text = .ok (.text text) ↔ ReadsAsTimestamp text)) ∧
      ('Z' ∈ (strip text.toList).dropLast → '\x00' ∉ text.toList →
        ¬ (column.convert text = .ok (.text text) ∧ ReadsAsTimestamp text)) := by
  rw [convert_eq_ok_iff isDatetime]
  refine ⟨?_, fun noZulu => ?_, fun inside noNul => ?_⟩
  · simp only [convert, isDatetime, convertChecked]
    split
    next passes => exact .inl passes
    next => exact .inr rfl
  · rw [spellOutZulu_eq_last noZulu, ReadsAsTimestamp]
  · refine not_both_timestamps inside fun member => noNul ?_
    obtain ⟨front, back, split, -, -⟩ := exists_strip text.toList
    rw [split]
    exact List.mem_append_right _ (List.mem_append_left _ member)

theorem readsAsTimestamp_iff {text : String} :
    ReadsAsTimestamp text ↔
      let bytes := encode (spellOutLastZulu (strip text.toList))
      7 ≤ bytes.length ∧ isDate (dateEnd bytes) bytes = true ∧
        (bytes.length ≤ dateEnd bytes ∨
          isTime (dropSeparator (bytes.drop (dateEnd bytes))) = true) :=
  isTimestamp_iff

theorem convert_datetime_zulu :
    let column : Column := ⟨"t", false, .datetime⟩
    column.type = .datetime ∧ 'Z' ∉ (strip " 20240101T10Z".toList).dropLast ∧
      column.convert " 20240101T10Z" = .ok (.text " 20240101T10Z") ∧
      'Z' ∈ (strip "20240101Z10Z".toList).dropLast ∧ '\x00' ∉ "20240101Z10Z".toList ∧
      ReadsAsTimestamp "20240101Z10Z" ∧
      column.convert "20240101Z10Z" = .error (.mismatch "t" .datetime "20240101Z10Z") := by
  intro column
  have isDatetime : column.type = .datetime := rfl
  obtain ⟨-, kept, -⟩ := convert_datetime isDatetime " 20240101T10Z"
  obtain ⟨outcome, -, refused⟩ := convert_datetime isDatetime "20240101Z10Z"
  have noZulu : 'Z' ∉ (strip " 20240101T10Z".toList).dropLast := by decide
  have inside : 'Z' ∈ (strip "20240101Z10Z".toList).dropLast := by decide
  have noNul : '\x00' ∉ "20240101Z10Z".toList := by decide
  have reads : ReadsAsTimestamp " 20240101T10Z" ∧ ReadsAsTimestamp "20240101Z10Z" := by
    rw [readsAsTimestamp_iff, readsAsTimestamp_iff]
    decide +kernel
  refine ⟨isDatetime, noZulu, (kept noZulu).2 reads.1, inside, noNul, reads.2, ?_⟩
  exact outcome.resolve_left fun isKept => refused inside noNul ⟨isKept, reads.2⟩

/-- A sign between hours and minutes, and one between date and time. -/
theorem convert_datetime_inside :
    let column : Column := ⟨"t", false, .datetime⟩
    column.convert "2024-01-01T10Z:00" = .ok (.text "2024-01-01T10Z:00") ∧
      ¬ ReadsAsTimestamp "2024-01-01T10Z:00" ∧
      column.convert "2024-01-01Z10:00" ≠ .ok (.text "2024-01-01Z10:00") ∧
      ReadsAsTimestamp "2024-01-01Z10:00" := by
  intro column
  rw [convert_eq_ok_iff rfl, Ne, convert_eq_ok_iff rfl, readsAsTimestamp_iff, readsAsTimestamp_iff,
    isTimestamp_iff, isTimestamp_iff]
  decide +kernel

end LogSelect.Column

import LogSelect.Proofs.Json.Written

/-!
Numbers that are infinite or none have no JSON form: a text with a name for one is no JSON text.

The names are told by the characters outside of texts.  No rule of the grammar puts a capital `I` or
`N` there, and the writer does for every such number.
-/

namespace LogSelect.Json

variable {allowed : Numeral → Prop} {p : Number → Prop} {cs rest : List Char} {d : Datum}

/-- The characters outside of texts; the flag tells whether the first character is inside. -/
def bare : (inside : Bool) → List Char → List Char
  | _, [] => []
  | false, c :: cs => if c = '"' then bare true cs else c :: bare false cs
  | true, '\\' :: _ :: cs => bare true cs
  | true, c :: cs => if c = '"' then bare false cs else bare true cs

/-- No name of a number stands outside of the texts. -/
def NoName (cs : List Char) : Prop :=
  ∀ c ∈ bare false cs, c ≠ 'I' ∧ c ≠ 'N'

theorem bare_inside {c : Char} (noQuote : c ≠ '"') (noBackslash : c ≠ '\\') (cs : List Char) :
    bare true (c :: cs) = bare true cs := by
  simp [bare, noQuote, noBackslash]

theorem bare_takeHex4? {code : ℕ} (taken : takeHex4? cs = some (code, rest)) :
    bare true cs = bare true rest := by
  obtain ⟨ds, rfl, -, digits, -⟩ := takeHex4?_eq_some taken
  clear taken
  induction ds with
  | nil => rfl
  | cons d ds ih =>
    obtain ⟨digit, others⟩ := List.forall_mem_cons.1 digits
    have noQuote : d ≠ '"' := by
      rintro rfl
      cases digit
    have noBackslash : d ≠ '\\' := by
      rintro rfl
      cases digit
    rw [List.cons_append, bare_inside noQuote noBackslash]
    exact ih others

theorem bare_takeUnicodeEscape? {c : Char} (taken : takeUnicodeEscape? cs = some (c, rest)) :
    bare true cs = bare true rest := by
  obtain ⟨code, mid, isFirst, same | ⟨low, behind, rfl, isSecond⟩⟩ :=
    takeUnicodeEscape?_eq_some taken
  · exact same ▸ bare_takeHex4? isFirst
  · rw [bare_takeHex4? isFirst, bare, bare_takeHex4? isSecond]

theorem bare_content {s : List Char} (content : Content cs s rest) :
    bare true cs = bare false rest := by
  induction content with
  | close => rfl
  | plain noQuote noBackslash _ _ ih => rw [bare_inside noQuote noBackslash, ih]
  | short _ _ ih => rw [bare, ih]
  | numeric taken _ ih => rw [bare, bare_takeUnicodeEscape? taken, ih]

/-! ## Phrases -/

theorem noName_quote {s : List Char} (content : Content cs s rest) :
    NoName ('"' :: cs) ↔ NoName rest := by
  rw [NoName, NoName, bare, if_pos rfl, bare_content content]

theorem noName_append (plain : '"' ∉ cs) :
    NoName (cs ++ rest) ↔ (∀ c ∈ cs, c ≠ 'I' ∧ c ≠ 'N') ∧ NoName rest := by
  have split : bare false (cs ++ rest) = cs ++ bare false rest := by
    induction cs with
    | nil => rfl
    | cons c cs ih =>
      rw [List.mem_cons, not_or] at plain
      rw [List.cons_append, bare, if_neg (Ne.symm plain.1), ih plain.2, List.cons_append]
  rw [NoName, split, List.forall_mem_append, NoName]

def IsPlain (c : Char) : Prop :=
  c ≠ '"' ∧ c ≠ 'I' ∧ c ≠ 'N'

instance (c : Char) : Decidable (IsPlain c) :=
  inferInstanceAs (Decidable (_ ∧ _ ∧ _))

theorem noName_append_plain (plain : ∀ c ∈ cs, IsPlain c) (noName : NoName rest) :
    NoName (cs ++ rest) :=
  (noName_append fun member => (plain _ member).1 rfl).2
    ⟨fun c member => (plain c member).2, noName⟩

theorem noName_cons {c : Char} (plain : IsPlain c) (noName : NoName cs) : NoName (c :: cs) :=
  noName_append_plain (List.forall_mem_singleton.2 plain) noName

theorem noName_blank (blank : Blank cs rest) (noName : NoName rest) : NoName cs := by
  induction blank with
  | here _ => exact noName
  | @pass c _ _ isBlank _ ih =>
    have plain : ∀ c ∈ [' ', '\n', '\t', '\r'], IsPlain c := by simp [IsPlain]
    exact noName_cons (plain c (by simpa [isSpace, or_assoc] using isBlank)) (ih noName)

theorem AreDigits.isPlain (areDigits : AreDigits cs) : ∀ c ∈ cs, IsPlain c := by
  intro c member
  have digit := areDigits.2 c member
  have other : ∀ c', isAsciiDigit c' = false → c ≠ c' := by
    rintro c' notDigit rfl
    simp [notDigit] at digit
  exact ⟨other _ rfl, other _ rfl, other _ rfl⟩

theorem isPlain_of_isNumeral {numeral : Numeral} (isNumeral : IsNumeral cs numeral) :
    ∀ c ∈ cs, IsPlain c := by
  cases isNumeral with
  | intro negative isWhole isFraction isExponent =>
    refine List.forall_mem_append.2 ⟨?_, List.forall_mem_append.2 ⟨isWhole.areDigits.isPlain,
      List.forall_mem_append.2 ⟨?_, ?_⟩⟩⟩
    · cases negative <;> simp [IsPlain]
    · cases isFraction with
      | nothing => exact nofun
      | point areDigits => exact List.forall_mem_cons.2 ⟨by decide, areDigits.isPlain⟩
    · cases isExponent with
      | nothing => exact nofun
      | power isE isSign areDigits =>
        refine List.forall_mem_cons.2 ⟨?_, List.forall_mem_append.2 ⟨?_, areDigits.isPlain⟩⟩
        · rcases isE with rfl | rfl <;> decide
        · cases isSign <;> simp [IsPlain]

/-- No rule of the grammar puts a name in front of what it leaves. -/
theorem noName_of_spells {phrase : Phrase} (spells : Spells allowed cs phrase rest)
    (noName : NoName rest) : NoName cs := by
  induction spells with
  | null =>
    have plain : ∀ c ∈ ['n', 'u', 'l', 'l'], IsPlain c := by simp [IsPlain]
    exact noName_append_plain plain noName
  | isTrue =>
    have plain : ∀ c ∈ ['t', 'r', 'u', 'e'], IsPlain c := by simp [IsPlain]
    exact noName_append_plain plain noName
  | isFalse =>
    have plain : ∀ c ∈ ['f', 'a', 'l', 's', 'e'], IsPlain c := by simp [IsPlain]
    exact noName_append_plain plain noName
  | number isNumeral _ => exact noName_append_plain (isPlain_of_isNumeral isNumeral) noName
  | text content => exact (noName_quote content).2 noName
  | emptyList blank | emptyMap blank =>
    exact noName_cons (by decide) (noName_blank blank (noName_cons (by decide) noName))
  | list _ ih | map _ ih => exact noName_cons (by decide) (ih noName)
  | lastMember front _ behind ih =>
    exact noName_blank front (ih (noName_blank behind (noName_cons (by decide) noName)))
  | member front _ behind _ ih ihNext =>
    exact noName_blank front (ih (noName_blank behind (noName_cons (by decide) (ihNext noName))))
  | lastEntry quote name colon front _ behind ih =>
    have value := noName_blank front (ih (noName_blank behind (noName_cons (by decide) noName)))
    exact noName_blank quote
      ((noName_quote name).2 (noName_blank colon (noName_cons (by decide) value)))
  | entry quote name colon front _ behind _ ih ihNext =>
    have value := noName_blank front
      (ih (noName_blank behind (noName_cons (by decide) (ihNext noName))))
    exact noName_blank quote
      ((noName_quote name).2 (noName_blank colon (noName_cons (by decide) value)))

/-! ## Documents -/

theorem noName_of_append (plain : ∀ c ∈ cs, IsPlain c) (noName : NoName (cs ++ rest)) :
    NoName rest :=
  ((noName_append fun member => (plain _ member).1 rfl).1 noName).2

theorem isFinite_of_noName {n : Number} (noName : NoName ((numberText n).toList ++ rest)) :
    n.IsFinite ∧ NoName rest := by
  by_cases finite : n.IsFinite
  · obtain ⟨numeral, isNumeral, -⟩ := exists_numeral finite
    exact ⟨finite, noName_of_append (isPlain_of_isNumeral isNumeral) noName⟩
  · rw [Number.IsFinite, not_and_or, not_ne_iff, not_forall] at finite
    obtain rfl | ⟨negative, isInfinite⟩ := finite
    · have plain := ((noName_append (by decide)).1 noName).1 'N' (by decide)
      exact absurd rfl plain.2
    · obtain rfl := not_ne_iff.1 isInfinite
      cases negative with
      | true =>
        have plain := ((noName_append (by decide)).1 noName).1 'I' (by decide)
        exact absurd rfl plain.1
      | false =>
        have plain := ((noName_append (by decide)).1 noName).1 'I' (by decide)
        exact absurd rfl plain.1

theorem isPlain_newLine (level : ℕ) : ∀ c ∈ (newLine level).toList, IsPlain c := by
  rw [newLine, String.toList_ofList]
  refine List.forall_mem_cons.2 ⟨by decide, fun c member => ?_⟩
  rw [List.eq_of_mem_replicate member]
  decide

section Block

variable {α : Type} {text : α → String} {holds : α → Prop} {items : List α}

theorem forall_of_noName_intercalate (level : ℕ)
    (each : ∀ item ∈ items, ∀ rest, NoName ((text item).toList ++ rest) → holds item ∧ NoName rest)
    (noName : NoName ((("," ++ newLine level).intercalate (items.map text)).toList ++ rest)) :
    (∀ item ∈ items, holds item) ∧ NoName rest := by
  induction items with
  | nil => exact ⟨nofun, by simpa using noName⟩
  | cons item items ih =>
    obtain ⟨first, others⟩ := List.forall_mem_cons.1 each
    cases items with
    | nil =>
      obtain ⟨isFirst, noName⟩ := first rest (by simpa using noName)
      exact ⟨List.forall_mem_singleton.2 isFirst, noName⟩
    | cons other items =>
      rw [List.map_cons, List.map_cons, String.intercalate_cons_cons] at noName
      simp only [String.toList_append, List.append_assoc] at noName
      obtain ⟨isFirst, noName⟩ := first _ noName
      have comma : ∀ c ∈ ",".toList, IsPlain c := by simp [IsPlain]
      obtain ⟨areOthers, noName⟩ := ih others
        (noName_of_append (isPlain_newLine level) (noName_of_append comma noName))
      exact ⟨List.forall_mem_cons.2 ⟨isFirst, areOthers⟩, noName⟩

theorem forall_of_noName_block {left right : String} (plainLeft : ∀ c ∈ left.toList, IsPlain c)
    (plainRight : ∀ c ∈ right.toList, IsPlain c) (level : ℕ)
    (each : ∀ item ∈ items, ∀ rest, NoName ((text item).toList ++ rest) → holds item ∧ NoName rest)
    (noName : NoName ((block left right level (items.map text)).toList ++ rest)) :
    (∀ item ∈ items, holds item) ∧ NoName rest := by
  by_cases empty : items = []
  · subst empty
    simp only [block, List.map_nil, List.isEmpty_nil, if_true, String.toList_append,
      List.append_assoc] at noName
    exact ⟨List.forall_mem_nil _, noName_of_append plainRight (noName_of_append plainLeft noName)⟩
  · simp only [toList_block _ _ _ _ empty, List.append_assoc] at noName
    obtain ⟨all, noName⟩ := forall_of_noName_intercalate (level + 1) each
      (noName_of_append (isPlain_newLine _) (noName_of_append plainLeft noName))
    exact ⟨all, noName_of_append plainRight (noName_of_append (isPlain_newLine _) noName)⟩

end Block

theorem isDocument_of_noName (document : IsDocument p d) (level : ℕ)
    (noName : NoName ((writeAt level d).toList ++ rest)) :
    IsDocument Number.IsFinite d ∧ NoName rest := by
  induction document generalizing level rest with
  | null =>
    rw [writeAt] at noName
    exact ⟨.null, noName_of_append (by simp [IsPlain]) noName⟩
  | bool b =>
    rw [writeAt] at noName
    cases b with
    | true => exact ⟨.bool true, noName_of_append (by simp [IsPlain]) noName⟩
    | false => exact ⟨.bool false, noName_of_append (by simp [IsPlain]) noName⟩
  | number _ =>
    rw [writeAt] at noName
    obtain ⟨finite, noName⟩ := isFinite_of_noName noName
    exact ⟨.number finite, noName⟩
  | text s =>
    refine ⟨.text s, (noName_quote (content_quote s.toList rest)).1 ?_⟩
    simpa [writeAt, quote] using noName
  | list _ ih =>
    rw [writeAt, writeMembers_eq_map] at noName
    obtain ⟨all, noName⟩ := forall_of_noName_block (by simp [IsPlain]) (by simp [IsPlain]) level
      (fun item member rest noName => ih item member (level + 1) noName) noName
    exact ⟨.list all, noName⟩
  | @map pairs distinct _ ih =>
    have each : ∀ pair ∈ pairs, ∀ rest, NoName ((writeEntry level pair).toList ++ rest) →
        IsDocument Number.IsFinite pair.2 ∧ NoName rest := by
      intro pair member rest noName
      rw [toList_writeEntry, noName_quote (content_quote _ _)] at noName
      have colon : ∀ c ∈ [':', ' '], IsPlain c := by simp [IsPlain]
      exact ih pair member (level + 1) (noName_of_append colon noName)
    rw [writeAt, writeEntries_eq_map] at noName
    obtain ⟨all, noName⟩ :=
      forall_of_noName_block (by simp [IsPlain]) (by simp [IsPlain]) level each noName
    exact ⟨.map distinct all, noName⟩

/-- The text of a document is a JSON text only if all its numbers have a JSON form. -/
theorem isDocument_of_isText (document : IsDocument p d) {d' : Datum}
    (isText : IsText (write d) d') : IsDocument Number.IsFinite d := by
  obtain ⟨front, behind, isFront, spells, isBehind⟩ := isText
  have noName := noName_blank isFront (noName_of_spells spells (noName_blank isBehind nofun))
  rw [← List.append_nil (write d).toList] at noName
  exact (isDocument_of_noName document 0 noName).1

end LogSelect.Json

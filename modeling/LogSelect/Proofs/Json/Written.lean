import LogSelect.Proofs.Json.Numbers
import LogSelect.Proofs.Json.Reading

/-!
The text that is written for a document denotes the document, and the reader gives it back.

Documents are data made of scalars, lists, and objects whose names are distinct texts.
-/

namespace LogSelect.Json

variable {allowed : Numeral → Prop} {p : Number → Prop} {rest : List Char} {d : Datum}

def keyed (pairs : List (String × Datum)) : List (Datum × Datum) :=
  pairs.map fun pair => (.text pair.1, pair.2)

@[simp]
theorem keyed_nil : keyed [] = [] := rfl

@[simp]
theorem keyed_cons (pair : String × Datum) (pairs : List (String × Datum)) :
    keyed (pair :: pairs) = (.text pair.1, pair.2) :: keyed pairs := rfl

/-- Data that JSON has a form for, but for a condition on the numbers. -/
inductive IsDocument (p : Number → Prop) : Datum → Prop where
  | null : IsDocument p .null
  | bool (b) : IsDocument p (.bool b)
  | number {n} : p n → IsDocument p (.number n)
  | text (s) : IsDocument p (.text s)
  | list {items} : (∀ d ∈ items, IsDocument p d) → IsDocument p (.list items)
  | map {pairs : List (String × Datum)} : (pairs.map Prod.fst).Nodup →
      (∀ pair ∈ pairs, IsDocument p pair.2) → IsDocument p (.map (keyed pairs))

theorem isDocument_list {items : List Datum} :
    IsDocument p (.list items) ↔ ∀ item ∈ items, IsDocument p item := by
  constructor
  · rintro ⟨⟩
    assumption
  · exact .list

theorem keyed_injective : Function.Injective keyed :=
  List.map_injective_iff.2 fun pair other same => by
    simpa [Prod.ext_iff] using same

theorem isDocument_map {pairs : List (String × Datum)} :
    IsDocument p (.map (keyed pairs)) ↔
      (pairs.map Prod.fst).Nodup ∧ ∀ pair ∈ pairs, IsDocument p pair.2 := by
  constructor
  · intro document
    generalize isMap : Datum.map (keyed pairs) = d at document
    cases document with
    | map distinct each =>
      obtain rfl := keyed_injective (Datum.map.inj isMap)
      exact ⟨distinct, each⟩
    | _ => cases isMap
  · exact fun ⟨distinct, each⟩ => .map distinct each

/-! ## Blanks and texts -/

theorem blank_newLine (level : ℕ) (rest : List Char) :
    Blank ((newLine level).toList ++ rest) rest := by
  have blanks : ∀ n, Blank (List.replicate n ' ' ++ rest) rest := by
    intro n
    induction n with
    | zero => exact .here rest
    | succ n ih => exact .pass rfl ih
  rw [newLine, String.toList_ofList]
  exact .pass rfl (blanks (2 * level))

theorem takeUnicodeEscape?_hex {c : Char} (control : c.toNat < 32) (rest : List Char) :
    takeUnicodeEscape? (Quoted.hex 4 c.toNat ++ rest) = some (c, rest) := by
  have table : ∀ n : Fin 32, takeHex4? (Quoted.hex 4 n.val) = some (n.val, []) := by decide +kernel
  obtain ⟨ds, isHex, -, -, taken⟩ := takeHex4?_eq_some (table ⟨c.toNat, control⟩)
  rw [List.append_nil] at isHex
  dsimp only at isHex taken
  have noHigh : ¬ (0xD800 ≤ c.toNat ∧ c.toNat < 0xDC00) := by omega
  have noLow : ¬ (0xDC00 ≤ c.toNat ∧ c.toNat < 0xE000) := by omega
  simp [isHex, takeUnicodeEscape?, taken, noHigh, noLow]

theorem content_escape (c : Char) {cs s : List Char} (content : Content cs s rest) :
    Content (escape c ++ cs) (c :: s) rest := by
  unfold escape
  split_ifs with isQuoted isFeed isReturn isTab isBack isForm isControl
  · rcases isQuoted with rfl | rfl
    · exact .short rfl content
    · exact .short rfl content
  · exact .short (isFeed ▸ rfl) content
  · exact .short (isReturn ▸ rfl) content
  · exact .short (isTab ▸ rfl) content
  · exact .short (isBack ▸ rfl) content
  · exact .short (isForm ▸ rfl) content
  · exact .numeric (takeUnicodeEscape?_hex isControl cs) content
  · obtain ⟨noQuote, noBackslash⟩ := not_or.1 isQuoted
    exact .plain noQuote noBackslash (not_lt.1 isControl) content

theorem content_quote (s : List Char) (rest : List Char) :
    Content (s.flatMap escape ++ '"' :: rest) s rest := by
  induction s with
  | nil => exact .close
  | cons c s ih =>
    rw [List.flatMap_cons, List.append_assoc]
    exact content_escape c ih

/-! ## Objects -/

theorem putKey_new {name : String} {value : Datum} {known : List (String × Datum)}
    (new : name ∉ known.map Prod.fst) :
    Datum.putKey (.text name) value (keyed known) = keyed (known ++ [(name, value)]) := by
  induction known with
  | nil => rfl
  | cons pair known ih =>
    rw [List.map_cons, List.mem_cons, not_or] at new
    have other : (Datum.text pair.1).sameKey (.text name) = false := by
      simpa [Datum.sameKey, Datum.keyNumber?, Datum.same] using Ne.symm new.1
    simp [Datum.putKey, other, ih new.2]

theorem mapOf_distinct {pairs : List (String × Datum)} (distinct : (pairs.map Prod.fst).Nodup) :
    Datum.mapOf (keyed pairs) = .map (keyed pairs) := by
  have fold : ∀ known : List (String × Datum), ((known ++ pairs).map Prod.fst).Nodup →
      (keyed pairs).foldl (fun known entry => Datum.putKey entry.1 entry.2 known)
        (keyed known) = keyed (known ++ pairs) := by
    clear distinct
    induction pairs with
    | nil => simp
    | cons pair pairs ih =>
      intro known distinct
      have new : pair.1 ∉ known.map Prod.fst := by
        rw [List.map_append, List.map_cons, List.nodup_middle, List.nodup_cons] at distinct
        exact fun member => distinct.1 (List.mem_append_left _ member)
      rw [List.append_cons] at distinct ⊢
      have others := ih (known ++ [pair]) distinct
      rw [← putKey_new new] at others
      exact others
  exact congrArg Datum.map (fold [] distinct)

/-! ## Lists and objects -/

theorem writeMembers_eq_map (level : ℕ) (items : List Datum) :
    writeMembers level items = items.map (writeAt (level + 1)) := by
  induction items with
  | nil => rfl
  | cons item items ih => rw [writeMembers, ih, List.map_cons]

def writeEntry (level : ℕ) (pair : String × Datum) : String :=
  quote pair.1 ++ ": " ++ writeAt (level + 1) pair.2

theorem toList_writeEntry (level : ℕ) (pair : String × Datum) (cs : List Char) :
    (writeEntry level pair).toList ++ cs =
      '"' :: (pair.1.toList.flatMap escape ++
        '"' :: ':' :: ' ' :: ((writeAt (level + 1) pair.2).toList ++ cs)) := by
  simp [writeEntry, quote]

theorem writeEntries_eq_map (level : ℕ) (pairs : List (String × Datum)) :
    writeEntries level (keyed pairs) = pairs.map (writeEntry level) := by
  induction pairs with
  | nil => rfl
  | cons pair pairs ih =>
    rw [keyed_cons, writeEntries, ih, List.map_cons]
    rfl

/-- What is written between brackets is a phrase if all items are parts of one. -/
theorem spells_block {α : Type} {text : α → String} {phrase : List α → Phrase} {right : Char}
    (level : ℕ) (rest : List Char) {items : List α} (nonempty : items ≠ [])
    (last : ∀ item ∈ items, ∀ cs, Blank cs (right :: rest) → ∀ front,
      Blank front ((text item).toList ++ cs) → Spells allowed front (phrase [item]) rest)
    (next : ∀ item ∈ items, ∀ cs others, Spells allowed cs (phrase others) rest → ∀ front,
      Blank front ((text item).toList ++ ',' :: cs) →
        Spells allowed front (phrase (item :: others)) rest) :
    Spells allowed ((newLine (level + 1)).toList ++
      ((("," ++ newLine (level + 1)).intercalate (items.map text)).toList ++
        ((newLine level).toList ++ right :: rest))) (phrase items) rest := by
  induction items with
  | nil => exact absurd rfl nonempty
  | cons item items ih =>
    cases items with
    | nil =>
      rw [List.map_singleton, String.intercalate_singleton]
      exact last item (by simp) _ (blank_newLine level _) _ (blank_newLine (level + 1) _)
    | cons other items =>
      have others := ih (by simp) (fun item member => last item (by simp [member]))
        (fun item member => next item (by simp [member]))
      have step := next item (by simp) _ _ others _ (blank_newLine (level + 1) _)
      simpa [String.intercalate_cons_cons] using step

theorem toList_block {α : Type} (text : α → String) (left right : String) (level : ℕ)
    {items : List α} (nonempty : items ≠ []) :
    (block left right level (items.map text)).toList =
      left.toList ++ ((newLine (level + 1)).toList ++
        ((("," ++ newLine (level + 1)).intercalate (items.map text)).toList ++
          ((newLine level).toList ++ right.toList))) := by
  rw [block, if_neg (by simpa using nonempty)]
  simp only [String.toList_append, List.append_assoc]

variable {level : ℕ}

theorem spells_list {items : List Datum}
    (each : ∀ item ∈ items, ∀ rest,
      Spells allowed ((writeAt (level + 1) item).toList ++ rest) (.datum item) rest)
    (rest : List Char) :
    Spells allowed ((writeAt level (.list items)).toList ++ rest) (.datum (.list items)) rest := by
  rw [writeAt, writeMembers_eq_map]
  by_cases empty : items = []
  · have spells : Spells allowed _ _ rest := .emptyList (.here (']' :: rest))
    simpa [block, empty] using spells
  · have spells := spells_block level rest empty
      (fun item member cs behind front isFront => .lastMember isFront (each item member cs) behind)
      (fun item member cs others spells front isFront =>
        .member isFront (each item member (',' :: cs)) (.here _) spells)
    simpa [toList_block _ _ _ _ empty] using Spells.list spells

theorem spells_map {pairs : List (String × Datum)} (distinct : (pairs.map Prod.fst).Nodup)
    (each : ∀ pair ∈ pairs, ∀ rest,
      Spells allowed ((writeAt (level + 1) pair.2).toList ++ rest) (.datum pair.2) rest)
    (rest : List Char) :
    Spells allowed ((writeAt level (.map (keyed pairs))).toList ++ rest)
      (.datum (.map (keyed pairs))) rest := by
  have last (pair) (member : pair ∈ pairs) (cs) (behind : Blank cs ('\x7d' :: rest)) (front)
      (isFront : Blank front ((writeEntry level pair).toList ++ cs)) :
      Spells allowed front (.entries (keyed [pair])) rest := by
    rw [toList_writeEntry] at isFront
    have spells := Spells.lastEntry isFront (content_quote _ _) (.here _) (.pass rfl (.here _))
      (each pair member cs) behind
    simpa using spells
  have next (pair) (member : pair ∈ pairs) (cs) (others : List (String × Datum))
      (spells : Spells allowed cs (.entries (keyed others)) rest) (front)
      (isFront : Blank front ((writeEntry level pair).toList ++ ',' :: cs)) :
      Spells allowed front (.entries (keyed (pair :: others))) rest := by
    rw [toList_writeEntry] at isFront
    have spells := Spells.entry isFront (content_quote _ _) (.here _) (.pass rfl (.here _))
      (each pair member (',' :: cs)) (.here _) spells
    simpa using spells
  rw [writeAt, writeEntries_eq_map]
  by_cases empty : pairs = []
  · have spells : Spells allowed _ _ rest := .emptyMap (.here ('\x7d' :: rest))
    simpa [block, empty] using spells
  · have spells := @spells_block allowed _ _ (fun pairs => .entries (keyed pairs)) _ level rest _
      empty last next
    rw [← mapOf_distinct distinct]
    simpa [toList_block _ _ _ _ empty] using Spells.map spells

theorem spells_writeAt (document : IsDocument p d)
    (numerals : ∀ n, p n → ∃ numeral, IsNumeral (numberText n).toList numeral ∧
      numberOf numeral = n ∧ allowed numeral) (level : ℕ) (rest : List Char) :
    Spells allowed ((writeAt level d).toList ++ rest) (.datum d) rest := by
  induction document generalizing level rest with
  | null =>
    rw [writeAt]
    exact .null
  | bool b =>
    rw [writeAt]
    cases b with
    | true => exact .isTrue
    | false => exact .isFalse
  | @number n holds =>
    obtain ⟨numeral, isNumeral, isNumber, isAllowed⟩ := numerals n holds
    rw [writeAt, ← isNumber]
    rw [← isNumber] at isNumeral
    exact .number isNumeral isAllowed
  | text s =>
    have spells : Spells allowed _ _ rest := .text (content_quote s.toList rest)
    rw [String.ofList_toList] at spells
    simpa [writeAt, quote] using spells
  | list _ ih => exact spells_list (fun item member rest => ih item member (level + 1) rest) rest
  | map distinct _ ih =>
    exact spells_map distinct (fun pair member rest => ih pair member (level + 1) rest) rest

theorem denotes_write (document : IsDocument p d)
    (numerals : ∀ n, p n → ∃ numeral, IsNumeral (numberText n).toList numeral ∧
      numberOf numeral = n ∧ allowed numeral) : Denotes allowed (write d) d := by
  have spells := spells_writeAt document numerals 0 []
  rw [List.append_nil] at spells
  exact ⟨_, [], .here _, spells, .here _⟩

theorem isText_write (document : IsDocument Number.IsFinite d) : IsText (write d) d :=
  denotes_write document fun _ finite =>
    let ⟨numeral, isNumeral, isNumber, _⟩ := exists_numeral finite
    ⟨numeral, isNumeral, isNumber, trivial⟩

/-- What is written for a document is read back, its whole numbers being short enough. -/
theorem read_write (document : IsDocument
    (fun n => n.IsFinite ∧ (Datum.number n).isCitable = true) d) : read (write d) = .ok d := by
  have denotes : Denotes (fun numeral => ¬ IsLong numeral) (write d) d :=
    denotes_write document fun _ holds =>
      let ⟨numeral, isNumeral, isNumber, short⟩ := exists_numeral holds.1
      ⟨numeral, isNumeral, isNumber, short holds.2⟩
  rcases read_of_denotes denotes with isRead | ⟨numeral, short, long, -⟩
  · exact isRead
  · exact absurd long short

end LogSelect.Json

import LogSelect.Proofs.Query.Spelling
import LogSelect.Proofs.Token.Scan

/-!
Which words are reserved.

A word is reserved if its letters, put in capitals, spell a keyword.  Three letters outside ASCII
have capitals of ASCII letters that occur in keywords: the long s, the dotless i and the ligature
of two f.  So a keyword has spellings other than its variants in upper and lower case, namely those
with one of these letters, and no others.
-/

namespace LogSelect

namespace Keyword

/-! ## Spellings of a keyword -/

/-- A word is the keyword up to the case of ASCII letters. -/
def IsVariant (keyword : Keyword) (word : List Char) : Prop :=
  word.map Char.toUpper = keyword.spelling.toList

instance (keyword : Keyword) (word : List Char) : Decidable (keyword.IsVariant word) :=
  inferInstanceAs (Decidable (_ = _))

/-- The letters outside ASCII that can stand in a keyword. -/
def lookalikes : List Char :=
  ['ſ', 'ı', 'ﬀ']

/-- The ASCII letters a letter stands for in a keyword. -/
def spellOut (c : Char) : List Char :=
  match c with
  | 'ſ' => ['s']
  | 'ı' => ['i']
  | 'ﬀ' => ['f', 'f']
  | c => [c]

/-- A word is the keyword up to the case of ASCII letters once its letters are spelled out. -/
def IsSpelling (keyword : Keyword) (word : List Char) : Prop :=
  keyword.IsVariant (word.flatMap spellOut)

instance (keyword : Keyword) (word : List Char) : Decidable (keyword.IsSpelling word) :=
  inferInstanceAs (Decidable (keyword.IsVariant _))

variable {keyword : Keyword} {word : List Char}

theorem spellOut_of_not_mem {c : Char} (other : c ∉ lookalikes) : spellOut c = [c] := by
  unfold spellOut
  split <;> first | rfl | exact absurd (by decide) other

theorem isVariant_iff :
    keyword.IsVariant word ↔ keyword.IsSpelling word ∧ ∀ c ∈ word, c ∉ lookalikes := by
  have same (plain : ∀ c ∈ word, c ∉ lookalikes) : word.flatMap spellOut = word := by
    rw [List.flatMap_congr fun c member => spellOut_of_not_mem (plain c member),
      List.flatMap_singleton']
  constructor
  · intro variant
    have plain : ∀ c ∈ word, c ∉ lookalikes := by
      intro c member lookalike
      have inSpelling : c.toUpper ∈ keyword.spelling.toList :=
        variant ▸ List.mem_map_of_mem member
      obtain rfl | rfl | rfl : c = 'ſ' ∨ c = 'ı' ∨ c = 'ﬀ' := by simpa [lookalikes] using lookalike
      all_goals cases keyword <;> exact absurd inSpelling (by decide)
    exact ⟨by rwa [IsSpelling, same plain], plain⟩
  · rintro ⟨spelling, plain⟩
    rwa [IsSpelling, same plain] at spelling

/-! ## Reserved words -/

theorem mem_all (keyword : Keyword) : keyword ∈ all := by
  cases keyword <;> decide

theorem eq_of_spelling {keyword' : Keyword} (same : keyword.spelling = keyword'.spelling) :
    keyword = keyword' := by
  have check : ∀ first ∈ all, ∀ second ∈ all,
      first.spelling = second.spelling → first = second := by
    decide
  exact check _ (mem_all _) _ (mem_all _) same

theorem ofWord?_eq_some_iff :
    ofWord? word = some keyword ↔ word.flatMap capitals = keyword.spelling.toList := by
  constructor
  · intro found
    simpa using List.find?_some found
  · intro spelled
    cases found : ofWord? word with
    | none =>
      have other := List.find?_eq_none.1 found keyword (mem_all keyword)
      simp [spelled] at other
    | some keyword' =>
      have spelled' : word.flatMap capitals = keyword'.spelling.toList := by
        simpa using List.find?_some found
      rw [eq_of_spelling (String.toList_inj.1 (spelled'.symm.trans spelled))]

/-- Where a letter can stand in a keyword, its capitals are those of the letters it stands for. -/
theorem capitals_eq {c : Char}
    (occurs : capitals c <:+: keyword.spelling.toList ∨
      (spellOut c).map Char.toUpper <:+: keyword.spelling.toList) :
    capitals c = (spellOut c).map Char.toUpper := by
  cases foreign : foreignCapitals.lookup c with
  | some form =>
    have isKey : c ∈ foreignCapitals.map Prod.fst := by
      by_contra other
      have none : foreignCapitals.lookup c = none := by
        refine List.lookup_eq_none_iff.2 fun pair member => bne_iff_ne.2 ?_
        rintro rfl
        exact other (List.mem_map_of_mem member)
      cases none.symm.trans foreign
    -- Checks run through the lists, since not every letter can be tried.
    have check : (all.all fun keyword => (foreignCapitals.map Prod.fst).all fun d =>
        capitals d <:+: keyword.spelling.toList ∨
          (spellOut d).map Char.toUpper <:+: keyword.spelling.toList →
        capitals d = (spellOut d).map Char.toUpper) = true := by
      decide +kernel
    have letters := List.all_eq_true.1 check keyword (mem_all keyword)
    exact of_decide_eq_true (List.all_eq_true.1 letters c isKey) occurs
  | none =>
    have other : c ∉ lookalikes := by
      intro lookalike
      have check : (lookalikes.all fun d => (foreignCapitals.lookup d).isSome) = true := by decide
      have isForeign := List.all_eq_true.1 check c lookalike
      rw [foreign] at isForeign
      cases isForeign
    rw [capitals, foreign, spellOut_of_not_mem other]
    rfl

theorem isSpelling_iff : keyword.IsSpelling word ↔ ofWord? word = some keyword := by
  rw [ofWord?_eq_some_iff, IsSpelling, IsVariant, List.map_flatMap]
  constructor
  · intro spelled
    rw [← spelled]
    refine List.flatMap_congr fun c member => @capitals_eq keyword c (.inr ?_)
    rw [← spelled]
    exact List.infix_flatMap_of_mem member fun d => (spellOut d).map Char.toUpper
  · intro spelled
    rw [← spelled]
    refine List.flatMap_congr fun c member => (@capitals_eq keyword c (.inl ?_)).symm
    rw [← spelled]
    exact List.infix_flatMap_of_mem member _

end Keyword

namespace Token

/-! ## Words of a text -/

theorem lexeme_of_mem_scanFrom {pos : Position} {cs : List Char} {t : Token}
    (member : t ∈ (scanFrom pos cs).tokens) :
    t.body = .stop ∧ t.lexeme = "" ∨ Lexeme t.body t.lexeme.toList := by
  fun_induction scanFrom pos cs with
  | case1 pos =>
    obtain rfl := List.mem_singleton.1 member
    exact .inl ⟨rfl, rfl⟩
  | case2 pos c cs extra read ih => exact ih member
  | case3 pos c cs body extra read lexeme scan ih =>
    rcases List.mem_cons.1 member with rfl | member
    · exact .inr (by simpa using lexeme_of_step read)
    · exact ih member
  | case4 pos c cs fault read => cases member

theorem isPlainName_cons {c : Char} {more : List Char} (starts : startsWord c = true)
    (continues : ∀ d ∈ more, continuesWord d = true) : isPlainName (c :: more) = true := by
  have first : continuesWord c = true := by
    simp only [startsWord, Bool.or_eq_true] at starts
    simp only [continuesWord, isWordSign, Bool.or_eq_true]
    tauto
  simpa [isPlainName, starts, first] using continues

theorem Lexeme.word_of_keyword {keyword : Keyword} {cs : List Char}
    (lexeme : Lexeme (.keyword keyword) cs) :
    isPlainName cs = true ∧ wordBody cs = .keyword keyword := by
  generalize isBody : Body.keyword keyword = body at lexeme
  cases lexeme with
  | sign sign =>
    have isSign := mem_signs sign
    rw [← isBody] at isSign
    simp [signs] at isSign
  | word starts continues => exact ⟨isPlainName_cons starts continues, rfl⟩
  | _ => cases isBody

theorem Lexeme.eq_wordBody {body : Body} {cs : List Char} (lexeme : Lexeme body cs)
    (plain : isPlainName cs = true) : body = wordBody cs := by
  obtain ⟨c, more, rfl, starts, continues⟩ := exists_word_of_isPlainName plain
  have read := lexeme.step_append separated_nil
  rw [step_word starts continues (by simp)] at read
  cases read
  rfl

theorem wordBody_eq_keyword_iff {keyword : Keyword} {word : List Char} :
    wordBody word = .keyword keyword ↔ keyword.IsSpelling word := by
  rw [Keyword.isSpelling_iff, wordBody]
  cases Keyword.ofWord? word <;> simp

theorem wordBody_eq_name_iff {word : List Char} :
    wordBody word = .name (String.ofList word) ↔
      ∀ keyword : Keyword, ¬ keyword.IsSpelling word := by
  simp only [Keyword.isSpelling_iff, wordBody]
  cases Keyword.ofWord? word <;> simp

theorem scan_word {name : String} (plain : isPlainName name.toList = true) :
    scan name =
      ⟨[⟨wordBody name.toList, name, .start⟩, ⟨.stop, "", Position.start.after name.toList⟩],
        none⟩ := by
  obtain ⟨c, more, split, starts, continues⟩ := exists_word_of_isPlainName plain
  have read := @step_word c more [] starts continues (by simp)
  rw [List.append_nil] at read
  rw [scan, split, scanFrom_token read, List.take_length, List.drop_length, scanFrom_nil, ← split,
    String.ofList_toList]

/-- What the body of a token says of its lexeme. -/
theorem body_of_mem_scan {text : String} {t : Token} (member : t ∈ (scan text).tokens) :
    (∀ keyword, t.body = .keyword keyword ↔
      isPlainName t.lexeme.toList = true ∧ keyword.IsSpelling t.lexeme.toList) ∧
    (isPlainName t.lexeme.toList = true →
      (t.body = .name t.lexeme ↔ ∀ keyword : Keyword, ¬ keyword.IsSpelling t.lexeme.toList)) := by
  rcases lexeme_of_mem_scanFrom member with ⟨isStop, isEmpty⟩ | lexeme
  · have notPlain : isPlainName t.lexeme.toList = false := by
      rw [isEmpty]
      rfl
    simp [isStop, notPlain]
  · refine ⟨fun keyword => ⟨fun reserved => ?_, fun ⟨plain, spelling⟩ => ?_⟩, fun plain => ?_⟩
    · rw [reserved] at lexeme
      exact ⟨lexeme.word_of_keyword.1, wordBody_eq_keyword_iff.1 lexeme.word_of_keyword.2⟩
    · rw [lexeme.eq_wordBody plain]
      exact wordBody_eq_keyword_iff.2 spelling
    · rw [lexeme.eq_wordBody plain, ← wordBody_eq_name_iff, String.ofList_toList]

/-- What a scan reads as a reserved word, and what it reads as a name.

The keywords of a text are the words that spell them, and every other word is a name and says
itself; so a plain name can be written without back quotes just if it spells no keyword.  The
spellings are the variants in upper and lower case, and further words with lookalikes.  So only the
variants are reserved in a text just if none of its keywords holds a lookalike. -/
theorem words_reserved_iff (text : String) :
    (∀ t ∈ (scan text).tokens,
      (∀ keyword, t.body = .keyword keyword ↔
        isPlainName t.lexeme.toList = true ∧ keyword.IsSpelling t.lexeme.toList) ∧
      (isPlainName t.lexeme.toList = true →
        (t.body = .name t.lexeme ↔ ∀ keyword : Keyword, ¬ keyword.IsSpelling t.lexeme.toList))) ∧
    (isPlainName text.toList = true →
      (scan text =
          ⟨[⟨.name text, text, .start⟩, ⟨.stop, "", Position.start.after text.toList⟩], none⟩ ↔
        ∀ keyword : Keyword, ¬ keyword.IsSpelling text.toList)) ∧
    (∀ (keyword : Keyword) word, keyword.IsVariant word ↔
      keyword.IsSpelling word ∧ ∀ c ∈ word, c ∉ Keyword.lookalikes) ∧
    ((∀ t ∈ (scan text).tokens,
        (∀ keyword, t.body = .keyword keyword → keyword.IsVariant t.lexeme.toList) ∧
        (isPlainName t.lexeme.toList = true →
          (∀ keyword : Keyword, ¬ keyword.IsVariant t.lexeme.toList) → t.body = .name t.lexeme)) ↔
      ∀ t ∈ (scan text).tokens, ∀ keyword, t.body = .keyword keyword →
        ∀ c ∈ t.lexeme.toList, c ∉ Keyword.lookalikes) := by
  refine ⟨fun t => body_of_mem_scan, fun plain => ?_, fun _ _ => Keyword.isVariant_iff,
    fun meets t member keyword reserved => ?_, fun bare t member => ?_⟩
  · rw [scan_word plain, ← wordBody_eq_name_iff, String.ofList_toList]
    simp
  · exact (Keyword.isVariant_iff.1 ((meets t member).1 keyword reserved)).2
  · obtain ⟨reserved_iff, name_iff⟩ := body_of_mem_scan member
    refine ⟨fun keyword reserved => ?_, fun plain other => (name_iff plain).2 ?_⟩
    · have spelling := ((reserved_iff keyword).1 reserved).2
      exact Keyword.isVariant_iff.2 ⟨spelling, bare t member keyword reserved⟩
    · intro keyword spelling
      have reserved := (reserved_iff keyword).2 ⟨plain, spelling⟩
      exact other keyword (Keyword.isVariant_iff.2 ⟨spelling, bare t member keyword reserved⟩)

/-- A column named as a keyword with a dotless i cannot be written without back quotes. -/
theorem words_reserved_iff_limit :
    isPlainName "lımıt".toList = true ∧ (scan "lımıt").tokens ≠
      [⟨.name "lımıt", "lımıt", .start⟩, ⟨.stop, "", Position.start.after "lımıt".toList⟩] := by
  have plain : isPlainName "lımıt".toList = true := by decide +kernel
  have spelling : Keyword.limit.IsSpelling "lımıt".toList := by decide
  refine ⟨plain, fun scanned => ?_⟩
  refine ((words_reserved_iff "lımıt").2.1 plain).1 ?_ .limit spelling
  rw [← scanned, scan_word plain]

/-- A keyword need not be written in its own letters. -/
theorem not_forall_isVariant :
    ¬ ∀ text, ∀ t ∈ (scan text).tokens, ∀ keyword, t.body = .keyword keyword →
      keyword.IsVariant t.lexeme.toList := by
  intro variants
  have reserved := variants "lımıt" ⟨.keyword .limit, "lımıt", .start⟩ (by
    rw [scan_word (by decide +kernel)]
    decide) .limit rfl
  exact absurd reserved (by decide)

end Token

end LogSelect

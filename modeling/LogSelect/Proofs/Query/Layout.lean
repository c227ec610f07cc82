import Mathlib.Data.List.Basic
import LogSelect.Proofs.Grammar.Earliest
import LogSelect.Proofs.Grammar.Places
import LogSelect.Proofs.Token.Partition
import LogSelect.Query.Error

/-!
The layout of a text does not matter.

Blanks and comments may be put anywhere between the lexemes of a text, and where they stand
already others may stand.  The text then has the same tokens at other places, so it is the same
query, or it is refused with the same complaint about the same token.
-/

namespace LogSelect

namespace Token

/-! ## Separators -/

inductive IsSeparator : List Char → Prop where
  | nil : IsSeparator []
  | blank {c cs} : isBlank c = true → IsSeparator cs → IsSeparator (c :: cs)
  | comment {inside cs} : '\n' ∉ inside → IsSeparator cs →
      IsSeparator ('-' :: '-' :: (inside ++ '\n' :: cs))

theorem step_blank {c : Char} (blank : isBlank c = true) (cs : List Char) :
    step c cs = .skip 0 := by
  rw [step, if_pos blank]

theorem step_comment {inside : List Char} (line : '\n' ∉ inside) (rest : List Char) :
    step '-' ('-' :: inside ++ '\n' :: rest) = .skip ('-' :: inside).length := by
  have all : ∀ c ∈ '-' :: inside, (c != '\n') = true := by
    intro c member
    rcases List.mem_cons.1 member with rfl | member
    · decide
    · simpa using ne_of_mem_of_not_mem member line
  have taken : ('-' :: inside ++ '\n' :: rest).takeWhile (· != '\n') = '-' :: inside :=
    takeWhile_append all (by simp)
  have notBlank : ¬ isBlank '-' = true := by decide +kernel
  rw [step, if_neg notBlank, if_pos ⟨rfl, rfl⟩, taken]

theorem scanFrom_separator {gap : List Char} (separator : IsSeparator gap) (rest : List Char)
    (pos : Position) :
    scanFrom pos (gap ++ rest) = scanFrom (pos.after gap) rest := by
  induction separator generalizing pos with
  | nil => rfl
  | blank blank _ ih =>
    rw [List.cons_append, scanFrom_skip (step_blank blank _)]
    exact ih _
  | @comment inside cs line _ ih =>
    have feed : step '\n' (cs ++ rest) = .skip 0 := step_blank (by decide +kernel) _
    have split : '-' :: '-' :: (inside ++ '\n' :: cs) ++ rest =
        '-' :: ('-' :: inside ++ '\n' :: (cs ++ rest)) := by
      simp
    rw [split, scanFrom_skip (step_comment line _), List.take_left, List.drop_left,
      scanFrom_skip feed, List.take_zero, List.drop_zero, ih, ← Position.after_append,
      ← Position.after_append]
    simp

theorem IsSeparator.separates {gap : List Char} (separator : IsSeparator gap)
    (nonempty : gap ≠ []) (rest : List Char) : Separated (gap ++ rest) := by
  cases separator with
  | nil => exact absurd rfl nonempty
  | blank blank _ => exact separated_cons (continuesToken_of_isBlank blank)
  | comment _ _ => exact separated_cons (by decide +kernel)

/-! ## Tokens laid out anew -/

def spread (pieces : List (Token × List Char)) : List Char :=
  pieces.flatMap fun (t, gap) => t.lexeme.toList ++ gap

/-- Separators for a list of tokens: one in front of them and one behind each.  Two lexemes must
not touch. -/
structure Layout (ts : List Token) where
  front : List Char
  pieces : List (Token × List Char)
  tokens : pieces.map Prod.fst = ts
  front_separator : IsSeparator front
  separators : ∀ piece ∈ pieces, IsSeparator piece.2
  apart : ∀ piece ∈ pieces.dropLast, piece.2 ≠ []

def Layout.text {ts : List Token} (layout : Layout ts) : String :=
  String.ofList (layout.front ++ spread layout.pieces)

/-- Only the last lexeme may stand directly in front of what follows, which is then nothing. -/
theorem IsSeparator.separated_spread {t : Token} {gap : List Char}
    {pieces : List (Token × List Char)} (separator : IsSeparator gap)
    (apart : ∀ piece ∈ ((t, gap) :: pieces).dropLast, piece.2 ≠ []) :
    Separated (gap ++ spread pieces) := by
  cases pieces with
  | nil =>
    by_cases nonempty : gap = []
    · subst nonempty
      exact separated_nil
    · exact separator.separates nonempty _
  | cons next pieces =>
    rw [List.dropLast_cons_cons, List.forall_mem_cons] at apart
    exact separator.separates apart.1 _

theorem scanFrom_spread {pieces : List (Token × List Char)}
    (lexemes : ∀ piece ∈ pieces, Lexeme piece.1.body piece.1.lexeme.toList)
    (separators : ∀ piece ∈ pieces, IsSeparator piece.2)
    (apart : ∀ piece ∈ pieces.dropLast, piece.2 ≠ []) (pos : Position) :
    ∃ us behind, scanFrom pos (spread pieces) = ⟨us ++ [⟨.stop, "", behind⟩], none⟩ ∧
      SameButPlaces (pieces.map Prod.fst) us := by
  induction pieces generalizing pos with
  | nil => exact ⟨[], pos, scanFrom_nil pos, rfl⟩
  | cons piece pieces ih =>
    obtain ⟨t, gap⟩ := piece
    rw [List.forall_mem_cons] at lexemes separators
    have separated := separators.1.separated_spread apart
    have apart' : ∀ piece ∈ pieces.dropLast, piece.2 ≠ [] := by
      intro piece member
      cases pieces with
      | nil => cases member
      | cons next pieces => exact apart piece (List.mem_cons_of_mem _ member)
    obtain ⟨_, behind, ⟨u, rfl, sameBody, sameLexeme⟩, scanned⟩ :=
      lexemes.1.yields _ separated pos
    obtain ⟨us, stop, scanned', same⟩ :=
      ih lexemes.2 separators.2 apart' (behind.after gap)
    refine ⟨u :: us, stop, ?_, ?_⟩
    · have split : spread ((t, gap) :: pieces) = t.lexeme.toList ++ (gap ++ spread pieces) := by
        simp [spread]
      rw [split, scanned, scanFrom_separator separators.1, scanned']
      rfl
    · rw [String.ofList_toList] at sameLexeme
      have first : t.unplaced = u.unplaced := by
        rw [unplaced, unplaced, sameBody, sameLexeme]
      simp only [SameButPlaces, List.map_cons, first]
      exact congrArg _ same

theorem lexemes_of_scan {text : String} {ts : List Token} {stop : Token}
    (scanned : scan text = ⟨ts ++ [stop], none⟩) :
    (∃ pos, stop = ⟨.stop, "", pos⟩) ∧ ∀ t ∈ ts, Lexeme t.body t.lexeme.toList := by
  constructor
  · obtain ⟨us, consists, -⟩ := (scanFrom_divides [] text.toList).tokens
    change (scan text).Consists _ us at consists
    rw [scanned] at consists
    obtain ⟨pos, -, split⟩ := consists
    exact ⟨pos, List.singleton_inj.1 (List.append_inj' split rfl).2⟩
  · obtain ⟨us, stop', split, -, lexemes⟩ := scanFrom_eq_lexemes (congrArg Scan.fault scanned)
    have tokens : us ++ [stop'] = ts ++ [stop] := split.symm.trans (congrArg Scan.tokens scanned)
    rwa [(List.append_inj' tokens rfl).1] at lexemes

theorem scan_layout {text : String} {ts : List Token} {stop : Token}
    (scanned : scan text = ⟨ts ++ [stop], none⟩) (layout : Layout ts) :
    ∃ us, scan layout.text = ⟨us, none⟩ ∧ SameButPlaces (ts ++ [stop]) us := by
  obtain ⟨⟨pos, rfl⟩, lexemes⟩ := lexemes_of_scan scanned
  have lexemes' : ∀ piece ∈ layout.pieces, Lexeme piece.1.body piece.1.lexeme.toList := by
    intro piece member
    apply lexemes
    rw [← layout.tokens]
    exact List.mem_map_of_mem member
  obtain ⟨us, behind, again, same⟩ := scanFrom_spread lexemes' layout.separators layout.apart
    (Position.start.after layout.front)
  rw [layout.tokens] at same
  refine ⟨us ++ [⟨.stop, "", behind⟩], ?_, ?_⟩
  · rw [scan, Layout.text, String.toList_ofList, scanFrom_separator layout.front_separator, again]
  · rw [SameButPlaces, List.map_append, List.map_append, same]
    rfl

end Token

/-! ## Verdicts on texts -/

namespace Query

open Token

/-- What two texts with the tokens `ts` and `us` come to if both are the same query, or both have
the same complaint about the token at one index. -/
inductive SameVerdict (ts us : List Token) :
    Except QueryError Query → Except QueryError Query → Prop where
  | query {query} : SameVerdict ts us (.ok query) (.ok query)
  | failure {complaint t u} (k : Nat) : ts[k]? = some t → us[k]? = some u →
      SameVerdict ts us (.error (.grammar complaint t)) (.error (.grammar complaint u))

/-- The token that a failure is about stands as far from the end as there are tokens left, and it
is the last if none is left. -/
theorem getElem?_headD {ts rest : List Token} (nonempty : ts ≠ []) (left : rest <:+ ts)
    (other : Token) :
    ts[ts.length - max 1 rest.length]? = some (rest.headD (ts.getLastD other)) := by
  obtain ⟨us, rfl⟩ := left
  cases rest with
  | nil =>
    rw [List.append_nil] at nonempty ⊢
    rw [← List.dropLast_append_getLast nonempty]
    simp
  | cons t rest => simp

theorem sameVerdict_of_scan {text text' : String} {ts us : List Token} (nonempty : ts ≠ [])
    (scanned : scan text = ⟨ts, none⟩) (scanned' : scan text' = ⟨us, none⟩)
    (same : SameButPlaces ts us) : SameVerdict ts us (ofText text) (ofText text') := by
  have length : ts.length = us.length := by
    simpa using congrArg List.length same
  have nonempty' : us ≠ [] := by
    rwa [← List.length_pos_iff, ← length, List.length_pos_iff]
  have alike := readAlike_of_sameButPlaces same
  simp only [ofText, scanned, scanned']
  generalize isRead : ofTokens ts = first, isRead' : ofTokens us = second at alike
  cases alike with
  | query => exact .query
  | @failure complaint rest rest' sameRest =>
    obtain ⟨taken, split, -⟩ := read_fails (ofTokens_eq_error.1 isRead)
    obtain ⟨taken', split', -⟩ := read_fails (ofTokens_eq_error.1 isRead')
    have lengthRest : rest.length = rest'.length := by
      simpa using congrArg List.length sameRest
    refine .failure (ts.length - max 1 rest.length) ?_ ?_
    · exact getElem?_headD nonempty ⟨taken, split.symm⟩ _
    · rw [length, lengthRest]
      exact getElem?_headD nonempty' ⟨taken', split'.symm⟩ _

/-- A text may be laid out anew: its tokens are the same but for their places, and it is the same
query or has the same complaint about the same token. -/
theorem ofText_layout {text : String} {ts : List Token} {stop : Token}
    (scanned : scan text = ⟨ts ++ [stop], none⟩) (layout : Layout ts) :
    ∃ us, scan layout.text = ⟨us, none⟩ ∧ SameButPlaces (ts ++ [stop]) us ∧
      SameVerdict (ts ++ [stop]) us (ofText text) (ofText layout.text) := by
  obtain ⟨us, scanned', same⟩ := scan_layout scanned layout
  exact ⟨us, scanned', same, sameVerdict_of_scan (by simp) scanned scanned' same⟩

/-- Comments around an operator that touched its operands: the complaint is about the operator. -/
theorem ofText_layout_comments :
    let ts : List Token := [⟨.keyword .select, "SELECT", ⟨1, 1, 0⟩⟩, ⟨.name "a", "a", ⟨1, 8, 7⟩⟩,
      ⟨.op .ge, ">=", ⟨1, 9, 8⟩⟩, ⟨.number (.int (-1)), "-1", ⟨1, 11, 10⟩⟩]
    let stop : Token := ⟨.stop, "", ⟨1, 13, 12⟩⟩
    scan "SELECT a>=-1" = ⟨ts ++ [stop], none⟩ ∧
      ∃ us, scan "--'\nSELECT a--\n>=\t-1" = ⟨us, none⟩ ∧ SameButPlaces (ts ++ [stop]) us ∧
        SameVerdict (ts ++ [stop]) us (ofText "SELECT a>=-1")
          (ofText "--'\nSELECT a--\n>=\t-1") := by
  intro ts stop
  have scanned : scan "SELECT a>=-1" = ⟨ts ++ [stop], none⟩ := by decide +kernel
  have blank : IsSeparator [' '] := .blank (by decide +kernel) .nil
  have tab : IsSeparator ['\t'] := .blank (by decide +kernel) .nil
  have comment : IsSeparator ['-', '-', '\n'] := @IsSeparator.comment [] [] (by simp) .nil
  have quoteComment : IsSeparator ['-', '-', '\'', '\n'] :=
    @IsSeparator.comment ['\''] [] (by simp) .nil
  obtain ⟨layout, isText⟩ : ∃ layout : Layout ts,
      layout.text = "--'\nSELECT a--\n>=\t-1" := by
    refine ⟨⟨['-', '-', '\'', '\n'],
      ts.zip [[' '], ['-', '-', '\n'], ['\t'], []], rfl, quoteComment, ?_, ?_⟩, ?_⟩
    · simp [ts, blank, comment, tab, IsSeparator.nil]
    · simp [ts]
    · rfl
  rw [← isText]
  exact ⟨scanned, ofText_layout scanned layout⟩

end Query

end LogSelect

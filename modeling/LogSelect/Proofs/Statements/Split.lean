import LogSelect.Proofs.Text.Blank
import LogSelect.Query.Statements

/-!
How the split of a text into statements goes on.

What is read of a text changes the quote that is open and nothing else, whatever stands behind it.
Behind a semicolon that ends a piece no quote is open, so what follows is split as a text of its
own: a text may be split in instalments, each time from the end of the last piece on.
-/

namespace LogSelect

/-! ## Reading on -/

theorem splitFrom_nil (quote : Option Char) (piece : List Char) :
    splitFrom quote piece [] = ([], piece.reverse) := rfl

theorem splitFrom_last (quote : Option Char) (piece : List Char) (c : Char) :
    splitFrom quote piece [c] =
      if quote.isNone && c == ';' then ([piece.reverse], [])
      else ([], (c :: piece).reverse) := rfl

theorem splitFrom_outside (piece : List Char) (c d : Char) (rest : List Char) :
    splitFrom none piece (c :: d :: rest) =
      if c = '\'' ∨ c = '"' ∨ c = '\x60' then splitFrom (some c) (c :: piece) (d :: rest)
      else if c = ';' then
        (piece.reverse :: (splitFrom none [] (d :: rest)).1, (splitFrom none [] (d :: rest)).2)
      else splitFrom none (c :: piece) (d :: rest) := rfl

theorem splitFrom_inside (q : Char) (piece : List Char) (c d : Char) (rest : List Char) :
    splitFrom (some q) piece (c :: d :: rest) =
      if c = '\\' ∧ q ≠ '\x60' then splitFrom (some q) (d :: c :: piece) rest
      else splitFrom (if c = q then none else some q) (c :: piece) (d :: rest) := rfl

/-- Reading `taken` ends no piece and leads from one open quote to another. -/
def Reads (quote : Option Char) (taken : List Char) (quote' : Option Char) : Prop :=
  ∀ piece rest, splitFrom quote piece (taken ++ rest) =
    splitFrom quote' (taken.reverse ++ piece) rest

section Reads

variable {quote quote' quote'' : Option Char} {c d q : Char} {cs ds : List Char}

theorem Reads.nil : Reads quote [] quote :=
  fun _ _ => rfl

theorem Reads.append (first : Reads quote cs quote') (second : Reads quote' ds quote'') :
    Reads quote (cs ++ ds) quote'' := by
  intro piece rest
  rw [List.append_assoc, first, second, List.reverse_append, List.append_assoc]

theorem Reads.cons (first : Reads quote [c] quote') (second : Reads quote' ds quote'') :
    Reads quote (c :: ds) quote'' :=
  first.append second

theorem reads_open (isQuote : c = '\'' ∨ c = '"' ∨ c = '\x60') : Reads none [c] (some c) := by
  intro piece rest
  cases rest with
  | nil => rcases isQuote with rfl | rfl | rfl <;> rfl
  | cons d rest => rw [List.singleton_append, splitFrom_outside, if_pos isQuote]; rfl

theorem reads_plain (noQuote : ¬ (c = '\'' ∨ c = '"' ∨ c = '\x60')) (noEnd : c ≠ ';') :
    Reads none [c] none := by
  intro piece rest
  cases rest with
  | nil => simp [splitFrom_nil, splitFrom_last, noEnd]
  | cons d rest => rw [List.singleton_append, splitFrom_outside, if_neg noQuote, if_neg noEnd]; rfl

theorem reads_protected (escapes : q ≠ '\x60') (d : Char) :
    Reads (some q) ['\\', d] (some q) := by
  intro piece rest
  rw [List.cons_append, List.singleton_append, splitFrom_inside, if_pos ⟨rfl, escapes⟩]
  rfl

theorem reads_close (other : q ≠ '\\') : Reads (some q) [q] none := by
  intro piece rest
  cases rest with
  | nil => simp [splitFrom_nil, splitFrom_last]
  | cons d rest =>
    rw [List.singleton_append, splitFrom_inside, if_neg fun escape => other escape.1, if_pos rfl]
    rfl

theorem reads_inside (noQuote : c ≠ q) (noEscape : ¬ (c = '\\' ∧ q ≠ '\x60')) :
    Reads (some q) [c] (some q) := by
  intro piece rest
  cases rest with
  | nil => simp [splitFrom_nil, splitFrom_last]
  | cons d rest =>
    rw [List.singleton_append, splitFrom_inside, if_neg noEscape, if_neg noQuote]
    rfl

def marks : List Char :=
  ['\'', '"', '\x60', ';']

theorem reads_unmarked (unmarked : ∀ c ∈ cs, c ∉ marks) : Reads none cs none := by
  induction cs with
  | nil => exact .nil
  | cons c cs ih =>
    obtain ⟨plain, others⟩ := List.forall_mem_cons.1 unmarked
    refine Reads.cons (reads_plain ?_ ?_) (ih others)
    · rintro (rfl | rfl | rfl) <;> exact plain (by decide)
    · rintro rfl
      exact plain (by decide)

theorem not_mem_marks {p : Char → Bool} (other : marks.any p = false) (holds : p c = true) :
    c ∉ marks :=
  fun member => List.any_eq_false.1 other c member holds

end Reads

theorem splitFrom_end (piece rest : List Char) :
    splitFrom none piece (';' :: rest) =
      (piece.reverse :: (splitFrom none [] rest).1, (splitFrom none [] rest).2) := by
  cases rest <;> rfl

/-- A split reads on, ends a piece, or stops at the end of the text, where a backslash may stand
alone. -/
theorem splitFrom_induction {motive : Option Char → List Char → Prop}
    (stop : ∀ quote cs, (∀ piece, splitFrom quote piece cs = ([], piece.reverse ++ cs)) →
      motive quote cs)
    (ends : ∀ rest, motive none rest → motive none (';' :: rest))
    (reads : ∀ quote taken quote' rest, Reads quote taken quote' → motive quote' rest →
      motive quote (taken ++ rest))
    (quote : Option Char) (cs : List Char) : motive quote cs := by
  induction cs using (measure List.length).wf.induction generalizing quote with
  | h cs shorter =>
    cases cs with
    | nil =>
      apply stop
      intro piece
      rw [List.append_nil]
      rfl
    | cons c rest =>
      have one {quote'} (step : Reads quote [c] quote') : motive quote (c :: rest) :=
        reads quote [c] quote' rest step (shorter rest (Nat.lt_succ_self _) quote')
      cases quote with
      | none =>
        by_cases isQuote : c = '\'' ∨ c = '"' ∨ c = '\x60'
        · exact one (reads_open isQuote)
        · by_cases isEnd : c = ';'
          · subst isEnd
            exact ends rest (shorter rest (Nat.lt_succ_self _) none)
          · exact one (reads_plain isQuote isEnd)
      | some q =>
        by_cases escape : c = '\\' ∧ q ≠ '\x60'
        · obtain ⟨rfl, escapes⟩ := escape
          cases rest with
          | nil =>
            apply stop
            intro piece
            simp [splitFrom_last]
          | cons d rest =>
            have less : rest.length < ('\\' :: d :: rest).length := by
              simp only [List.length_cons]
              omega
            exact reads (some q) ['\\', d] (some q) rest (reads_protected escapes d)
              (shorter rest less (some q))
        · by_cases isQuote : c = q
          · subst isQuote
            exact one (reads_close fun same => escape ⟨same, same ▸ by decide⟩)
          · exact one (reads_inside isQuote escape)

/-! ## Instalments -/

/-- Either no piece has ended, or the text divides behind the last piece, and whatever stands in the
place of the remainder is split for itself. -/
theorem splitFrom_divides (quote : Option Char) (piece cs : List Char) :
    splitFrom quote piece cs = ([], piece.reverse ++ cs) ∨
      ∃ front, cs = front ++ (splitFrom quote piece cs).2 ∧ ∀ more,
        splitFrom quote piece (front ++ more) =
          ((splitFrom quote piece cs).1 ++ (splitFrom none [] more).1,
            (splitFrom none [] more).2) := by
  induction quote, cs using splitFrom_induction generalizing piece with
  | stop quote cs stops => exact .inl (stops piece)
  | ends rest ih =>
    refine .inr ?_
    rw [splitFrom_end]
    rcases ih [] with whole | ⟨front, split, resumed⟩
    · refine ⟨[';'], by rw [whole]; rfl, fun more => ?_⟩
      rw [List.singleton_append, splitFrom_end, whole]
      rfl
    · refine ⟨';' :: front, congrArg (';' :: ·) split, fun more => ?_⟩
      rw [List.cons_append, splitFrom_end, resumed]
      rfl
  | reads quote taken quote' rest step ih =>
    rw [step]
    rcases ih (taken.reverse ++ piece) with whole | ⟨front, split, resumed⟩
    · left
      rw [whole, List.reverse_append, List.reverse_reverse, List.append_assoc]
    · refine .inr ⟨taken ++ front, ?_, fun more => ?_⟩
      · rw [List.append_assoc, ← split]
      · rw [List.append_assoc, step, resumed]

theorem splitFrom_append (cs more : List Char) :
    splitFrom none [] (cs ++ more) =
      ((splitFrom none [] cs).1 ++ (splitFrom none [] ((splitFrom none [] cs).2 ++ more)).1,
        (splitFrom none [] ((splitFrom none [] cs).2 ++ more)).2) := by
  rcases splitFrom_divides none [] cs with whole | ⟨front, split, resumed⟩
  · rw [whole]
    rfl
  · conv => lhs; rw [split, List.append_assoc, resumed]

/-- What has been read of the first piece stands in front of it. -/
def extendFirst (front : List Char) : List (List Char) × List Char → List (List Char) × List Char
  | ([], last) => ([], front ++ last)
  | (piece :: pieces, last) => ((front ++ piece) :: pieces, last)

theorem splitFrom_behind (quote : Option Char) (piece front cs : List Char) :
    splitFrom quote (piece ++ front.reverse) cs = extendFirst front (splitFrom quote piece cs) := by
  induction quote, cs using splitFrom_induction generalizing piece with
  | stop quote cs stops => simp [stops, extendFirst]
  | ends rest ih => simp [splitFrom_end, extendFirst]
  | reads quote taken quote' rest step ih => rw [step, step, ← List.append_assoc, ih]

/-! ## Statements -/

def statementTexts (pieces : List (List Char)) : List String :=
  ((pieces.map strip).filter fun piece => !piece.isEmpty).map String.ofList

theorem statementTexts_append (first second : List (List Char)) :
    statementTexts (first ++ second) = statementTexts first ++ statementTexts second := by
  simp [statementTexts]

theorem splitStatements_eq (text : String) :
    splitStatements text = (statementTexts (splitFrom none [] text.toList).1,
      String.ofList (splitFrom none [] text.toList).2) := rfl

/-- A text is split in instalments, the remainder of the first in front of the second. -/
theorem splitStatements_append (text more : String) :
    splitStatements (text ++ more) =
      ((splitStatements text).1 ++ (splitStatements ((splitStatements text).2 ++ more)).1,
        (splitStatements ((splitStatements text).2 ++ more)).2) := by
  simp only [splitStatements_eq, String.toList_append, String.toList_ofList]
  rw [splitFrom_append, statementTexts_append]

theorem reads_blank {front : List Char} (blank : ∀ c ∈ front, isBlank c = true) :
    Reads none front none :=
  reads_unmarked fun c member => not_mem_marks (by decide) (blank c member)

theorem splitStatements_blank_append {front : String} (blank : isBlankText front = true)
    (more : String) : (splitStatements (front ++ more)).1 = (splitStatements more).1 := by
  have blanks : ∀ c ∈ front.toList, isBlank c = true := List.all_eq_true.1 blank
  simp only [splitStatements_eq, String.toList_append]
  rw [reads_blank blanks, List.append_nil, ← List.nil_append front.toList.reverse,
    splitFrom_behind]
  cases splitFrom none [] more.toList with
  | mk pieces last =>
    cases pieces with
    | nil => rfl
    | cons piece pieces => simp [extendFirst, statementTexts, strip_append blanks]

end LogSelect

import LogSelect.Proofs.Statements.Split
import LogSelect.Proofs.Token.Partition

/-!
Where the statements of a text end.

Reading a token ends no piece and leaves no quote open, unless the token is a semicolon, which ends
one.  So the split cuts a text at its semicolons, if reading what stands between the tokens ends no
piece and leaves no quote open either.  Blanks never do; a comment may, for the split knows no
comments: it takes an apostrophe in a comment for the quote of a literal.
-/

namespace LogSelect

namespace Token

/-! ## Reading a lexeme -/

theorem TextInside.reads {quote : Char} {inside content : List Char}
    (isQuote : quote = '\'' ∨ quote = '"') (forms : TextInside quote inside content) :
    Reads (some quote) inside (some quote) := by
  have noEscape : quote ≠ '\\' ∧ quote ≠ '\x60' := by
    rcases isQuote with rfl | rfl <;> decide
  have anyQuote : quote = '\'' ∨ quote = '"' ∨ quote = '\x60' := by
    rcases isQuote with rfl | rfl <;> simp
  induction forms with
  | nil => exact .nil
  | doubled _ ih => exact (reads_close noEscape.1).cons ((reads_open anyQuote).cons ih)
  | escaped _ _ ih => exact (reads_protected noEscape.2 _).append ih
  | plain noQuote noBackslash _ ih =>
    exact (reads_inside noQuote fun escape => noBackslash escape.1).cons ih

theorem reads_quotedName {name : List Char} (closed : backQuote ∉ name) :
    Reads (some backQuote) name (some backQuote) := by
  induction name with
  | nil => exact .nil
  | cons c name ih =>
    obtain ⟨noQuote, others⟩ := not_or.1 (mt List.mem_cons.2 closed)
    exact (reads_inside (Ne.symm noQuote) fun escape => escape.2 rfl).cons (ih others)

theorem NumberText.unmarked {cs : List Char} {n : Number} (spells : NumberText cs n) :
    ∀ c ∈ cs, c ∉ marks := by
  have sign (negative : Bool) : ∀ c ∈ minus negative, c ∉ marks := by
    cases negative <;> simp [minus, marks]
  have digit : ∀ {digits : List Char}, (∀ c ∈ digits, isAsciiDigit c = true) →
      ∀ c ∈ digits, c ∉ marks := by
    intro digits all c member
    exact not_mem_marks (by decide) (all c member)
  cases spells with
  | whole _ all _ => exact List.forall_mem_append.2 ⟨sign _, digit all⟩
  | decimal _ _ all allFraction =>
    exact List.forall_mem_append.2 ⟨sign _, List.forall_mem_append.2
      ⟨digit all, List.forall_mem_cons.2 ⟨by decide, digit allFraction⟩⟩⟩

/-- Reading a lexeme ends no piece and leaves no quote open, unless it is the semicolon. -/
theorem Lexeme.reads {body : Body} {cs : List Char} (lexeme : Lexeme body cs)
    (noEnd : body ≠ .semicolon) : Reads none cs none := by
  cases lexeme with
  | pair pair =>
    apply reads_unmarked
    unfold pairOp? at pair
    split at pair <;> cases pair <;> simp [marks]
  | sign sign =>
    apply reads_unmarked
    unfold signBody? at sign
    split at sign <;> cases sign <;> first | exact absurd rfl noEnd | simp [marks]
  | @text quote _ _ isQuote forms =>
    have noEscape : quote ≠ '\\' := by
      rcases isQuote with rfl | rfl <;> decide
    have opens := reads_open (isQuote.imp_right Or.inl)
    exact opens.cons ((forms.reads isQuote).append (reads_close noEscape))
  | number spells => exact reads_unmarked spells.unmarked
  | quoted _ closed =>
    have opens : Reads none [backQuote] (some backQuote) := reads_open (.inr (.inr rfl))
    exact opens.cons ((reads_quotedName closed).append (reads_close (by decide)))
  | word starts all =>
    refine reads_unmarked (List.forall_mem_cons.2 ⟨?_, fun d member => ?_⟩)
    · exact not_mem_marks (by decide) starts
    · exact not_mem_marks (by decide) (all d member)

/-- Reading the token ends a piece if it is a semicolon, and otherwise nothing; no quote is left
open. -/
def Steady (t : Token) : Prop :=
  (t.body = .semicolon ∧ t.lexeme = ";") ∨
    (t.body ≠ .semicolon ∧ Reads none t.lexeme.toList none)

theorem Lexeme.eq_semicolon {cs : List Char} (lexeme : Lexeme .semicolon cs) :
    String.ofList cs = ";" := by
  generalize isEnd : Body.semicolon = body at lexeme
  cases lexeme with
  | sign sign =>
    subst isEnd
    unfold signBody? at sign
    split at sign <;> first | rfl | cases sign
  | word _ _ => rcases wordBody_eq _ with ⟨_, same⟩ | same <;> cases isEnd.trans same
  | _ => cases isEnd

theorem Lexeme.steady {body : Body} {cs : List Char} (lexeme : Lexeme body cs) (pos : Position) :
    Steady ⟨body, String.ofList cs, pos⟩ := by
  by_cases isEnd : body = .semicolon
  · subst isEnd
    exact .inl ⟨rfl, lexeme.eq_semicolon⟩
  · refine .inr ⟨isEnd, ?_⟩
    rw [String.toList_ofList]
    exact lexeme.reads isEnd

theorem scanFrom_steady (pos : Position) (cs : List Char) :
    ∀ t ∈ (scanFrom pos cs).tokens, t.Steady := by
  fun_induction scanFrom pos cs with
  | case1 pos => exact List.forall_mem_singleton.2 (.inr ⟨by simp, .nil⟩)
  | case2 pos c cs extra read ih => exact ih
  | case3 pos c cs body extra read lexeme scan ih =>
    exact List.forall_mem_cons.2 ⟨(lexeme_of_step read).steady pos, ih⟩
  | case4 pos c cs fault read => simp

/-! ## Cutting at the semicolons -/

def semicolons (ts : List Token) : List Nat :=
  (ts.filter (·.body = .semicolon)).map (·.pos.offset)

end Token

/-- The pieces of a text from `start` on that end in front of the given offsets, and what follows
the last of these. -/
def cutAt (text : List Char) (start : Nat) : List Nat → List (List Char) × List Char
  | [] => ([], text.drop start)
  | offset :: offsets =>
    (text.extract start offset :: (cutAt text (offset + 1) offsets).1,
      (cutAt text (offset + 1) offsets).2)

def statementsAt (text : String) (offsets : List Nat) : List String × String :=
  (statementTexts (cutAt text.toList 0 offsets).1, String.ofList (cutAt text.toList 0 offsets).2)

theorem extract_append_extract {text : List Char} {i j k : Nat} (le : i ≤ j) (le' : j ≤ k) :
    text.extract i j ++ text.extract j k = text.extract i k := by
  obtain ⟨m, rfl⟩ := Nat.exists_eq_add_of_le le
  obtain ⟨n, rfl⟩ := Nat.exists_eq_add_of_le le'
  rw [List.extract_eq_take_drop, List.extract_eq_take_drop, List.extract_eq_take_drop,
    Nat.add_sub_cancel_left, Nat.add_sub_cancel_left, Nat.add_assoc, Nat.add_sub_cancel_left,
    List.take_add, List.drop_drop]

theorem extract_append_drop {text : List Char} {i j : Nat} (le : i ≤ j) :
    text.extract i j ++ text.drop j = text.drop i := by
  obtain ⟨n, rfl⟩ := Nat.exists_eq_add_of_le le
  rw [List.extract_eq_take_drop, Nat.add_sub_cancel_left, ← List.drop_drop,
    List.take_append_drop]

namespace Token

/-- The split of a text behind `start`, where the current piece has begun at `first`. -/
theorem splitFrom_eq_cutAt {text : List Char} {first start : Nat} {ts : List Token}
    (begun : first ≤ start) (steady : ∀ t ∈ ts, t.Steady)
    (lexeme : ∀ t ∈ ts, text.extract t.pos.offset t.endOffset = t.lexeme.toList)
    (apart : ts.Pairwise fun s t => s.endOffset ≤ t.pos.offset)
    (behind : ∀ t ∈ ts, start ≤ t.pos.offset)
    (quiet : ∀ gap ∈ gaps start text.length ts, Reads none (text.extract gap.1 gap.2) none) :
    splitFrom none (text.extract first start).reverse (text.drop start) =
      cutAt text first (semicolons ts) := by
  induction ts generalizing first start with
  | nil =>
    have last : text.extract start text.length = text.drop start := by
      rw [List.extract_eq_take_drop, List.take_of_length_le (by simp)]
    have step := quiet _ List.mem_cons_self (text.extract first start).reverse []
    rw [last, List.append_nil] at step
    rw [step, splitFrom, List.reverse_append, List.reverse_reverse, List.reverse_reverse,
      extract_append_drop begun]
    rfl
  | cons t ts ih =>
    obtain ⟨place, places⟩ := List.forall_mem_cons.1 behind
    obtain ⟨gap, others⟩ := List.forall_mem_cons.1 quiet
    obtain ⟨before, apart⟩ := List.pairwise_cons.1 apart
    obtain ⟨spelled, lexeme⟩ := List.forall_mem_cons.1 lexeme
    obtain ⟨steadyHead, steady⟩ := List.forall_mem_cons.1 steady
    have far : t.pos.offset ≤ t.endOffset := Nat.le_add_right _ _
    have split : text.drop start = text.extract start t.pos.offset ++
        (t.lexeme.toList ++ text.drop t.endOffset) := by
      rw [← spelled, extract_append_drop far, extract_append_drop place]
    rw [split, gap, ← List.reverse_append, extract_append_extract begun place]
    rcases steadyHead with ⟨isEnd, sign⟩ | ⟨noEnd, step⟩
    · have stop : t.endOffset = t.pos.offset + 1 := by
        rw [endOffset, sign]
        rfl
      have next := ih (Nat.le_refl t.endOffset) steady lexeme apart before others
      rw [List.extract_eq_take_drop, Nat.sub_self, List.take_zero, List.reverse_nil] at next
      rw [sign, show (";" : String).toList = [';'] from rfl, List.singleton_append,
        splitFrom_end, next, List.reverse_reverse, stop]
      simp [semicolons, isEnd, cutAt]
    · have next := ih (Nat.le_trans begun (Nat.le_trans place far)) steady lexeme apart before
        others
      rw [step, ← spelled, ← List.reverse_append,
        extract_append_extract (Nat.le_trans begun place) far, next]
      simp [semicolons, noEnd]

/-- Reading what stands between the tokens ends no piece and leaves no quote open. -/
def QuietBetween (text : String) : Prop :=
  ∀ gap ∈ gaps 0 text.toList.length (scan text).tokens,
    Reads none (text.toList.extract gap.1 gap.2) none

/-- A text that scans without fault is cut at its semicolons, if it is quiet between the tokens. -/
theorem splitStatements_semicolons (text : String) (quiet : QuietBetween text) :
    splitStatements text = statementsAt text (semicolons (scan text).tokens) := by
  have divides : Divides text.toList 0 (scan text) := scanFrom_divides [] text.toList
  have pieces := splitFrom_eq_cutAt (Nat.le_refl 0) (scanFrom_steady _ _) divides.lexeme
    (divides.apart.imp And.right) (fun t member => Nat.zero_le _) quiet
  rw [List.drop_zero] at pieces
  rw [splitStatements_eq, statementsAt, scan, ← pieces]
  rfl

/-- Semicolons in a literal and in a quoted name end nothing. -/
theorem splitStatements_semicolons_quoted :
    QuietBetween "a --b\n'x;\\''; `c;`" ∧
      splitStatements "a --b\n'x;\\''; `c;`" = (["a --b\n'x;\\''"], " `c;`") := by
  have scanned : (scan "a --b\n'x;\\''; `c;`").tokens =
      [⟨.name "a", "a", ⟨1, 1, 0⟩⟩, ⟨.text "x;'", "'x;\\''", ⟨2, 1, 6⟩⟩,
        ⟨.semicolon, ";", ⟨2, 7, 12⟩⟩, ⟨.name "c;", "`c;`", ⟨2, 9, 14⟩⟩,
        ⟨.stop, "", ⟨2, 13, 18⟩⟩] := by
    decide +kernel
  have quiet : QuietBetween "a --b\n'x;\\''; `c;`" := by
    intro gap member
    apply reads_unmarked
    rw [scanned] at member
    change gap ∈ [(0, 0), (1, 6), (12, 12), (13, 14), (18, 18), (18, 18)] at member
    revert gap
    simp [marks]
  have split := splitStatements_semicolons _ quiet
  rw [scanned] at split
  exact ⟨quiet, split⟩

/-- An apostrophe in a comment opens a quote for the split, so that the semicolon behind it ends
nothing. -/
theorem splitStatements_apostrophe :
    (scan "SELECT a -- it's\n;").fault = none ∧
      semicolons (scan "SELECT a -- it's\n;").tokens = [17] ∧
      statementsAt "SELECT a -- it's\n;" [17] = (["SELECT a -- it's"], "") ∧
      splitStatements "SELECT a -- it's\n;" = ([], "SELECT a -- it's\n;") := by
  refine ⟨?_, ?_, ?_, ?_⟩ <;> decide +kernel

end Token

end LogSelect

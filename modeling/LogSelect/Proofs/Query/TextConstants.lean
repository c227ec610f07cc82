import LogSelect.Proofs.Query.Spelling
import LogSelect.Proofs.Token.Scan

/-!
Text constants in front of any text.

A quoted text is read as one constant, whatever stands behind it, unless that begins with another
quote.  What stands behind it is read as if it stood alone, only further on.
-/

namespace LogSelect

/-! ## Places behind a piece of a line -/

/-- Where a place of a text lies once so many characters, none of them a line feed, have been
written in front of the text: only the first line grows. -/
def Position.behind (width : Nat) (pos : Position) : Position :=
  ⟨pos.line, if pos.line = 1 then pos.column + width else pos.column, pos.offset + width⟩

namespace Position

variable {pos : Position}

theorem line_le_line_next (c : Char) : pos.line ≤ (pos.next c).line := by
  unfold next
  split <;> simp

theorem behind_next (positive : 0 < pos.line) (width : Nat) (c : Char) :
    (pos.next c).behind width = (pos.behind width).next c := by
  unfold next behind
  split
  · have later : pos.line + 1 ≠ 1 := by omega
    rw [if_neg later]
    simp only [Nat.add_right_comm]
  · split <;> simp only [Nat.add_right_comm]

theorem line_le_line_after (cs : List Char) : pos.line ≤ (pos.after cs).line := by
  induction cs generalizing pos with
  | nil => exact le_refl _
  | cons c cs ih => exact (line_le_line_next c).trans ih

theorem behind_after (positive : 0 < pos.line) (width : Nat) (cs : List Char) :
    (pos.after cs).behind width = (pos.behind width).after cs := by
  induction cs generalizing pos with
  | nil => rfl
  | cons c cs ih =>
    rw [after_cons, after_cons, ← behind_next positive,
      ih (Nat.lt_of_lt_of_le positive (line_le_line_next c))]

theorem after_of_no_lineFeed {cs : List Char} (single : '\n' ∉ cs) :
    pos.after cs = ⟨pos.line, pos.column + cs.length, pos.offset + cs.length⟩ := by
  induction cs generalizing pos with
  | nil => rfl
  | cons c cs ih =>
    obtain ⟨other, single⟩ := not_or.1 (List.mem_cons.not.1 single)
    rw [after_cons, ih single, next, if_neg (Ne.symm other)]
    simp only [List.length_cons, mk.injEq, true_and]
    omega

theorem start_after {cs : List Char} (single : '\n' ∉ cs) :
    start.after cs = start.behind cs.length := by
  rw [after_of_no_lineFeed single]
  rfl

end Position

namespace Token

def behind (width : Nat) (t : Token) : Token :=
  { t with pos := t.pos.behind width }

/-- The scan of a text that stands behind so many characters: the same tokens and the same fault,
further on. -/
def Scan.behind (width : Nat) (scan : Scan) : Scan :=
  ⟨scan.tokens.map (Token.behind width),
    scan.fault.map fun (fault, pos) => (fault, pos.behind width)⟩

/-- A scan does not depend on the place where it starts. -/
theorem scanFrom_behind {pos : Position} (positive : 0 < pos.line) (width : Nat) (cs : List Char) :
    scanFrom (pos.behind width) cs = (scanFrom pos cs).behind width := by
  have further : ∀ passed, 0 < (pos.after passed).line := fun passed =>
    Nat.lt_of_lt_of_le positive (Position.line_le_line_after passed)
  fun_induction scanFrom pos cs with
  | case1 pos =>
    rw [scanFrom_nil]
    rfl
  | case2 pos c cs extra read ih =>
    rw [scanFrom_skip read, ← Position.behind_after positive]
    exact ih (further _) fun passed => by
      rw [← Position.after_append]
      exact further _
  | case3 pos c cs body extra read lexeme scan ih =>
    have rest := ih (further _) fun passed => by
      rw [← Position.after_append]
      exact further _
    rw [scanFrom_token read, ← Position.behind_after positive, rest]
    rfl
  | case4 pos c cs fault read =>
    rw [scanFrom, read]
    rfl

end Token

/-! ## Quoted texts -/

open Token

/-- The control characters that a quoted text spells with a backslash. -/
def layoutControls : List Char :=
  ['\n', '\r', '\t']

theorem not_mem_escapeTextChar {c : Char} (control : c ∈ layoutControls) (d : Char) :
    c ∉ escapeTextChar d := by
  have notEscape (cs : List Char) (visible : cs.all (· ∉ layoutControls) = true) : c ∉ cs :=
    fun member => of_decide_eq_true (List.all_eq_true.1 visible c member) control
  unfold escapeTextChar
  split
  · exact notEscape _ (by decide)
  · exact notEscape _ (by decide)
  · exact notEscape _ (by decide)
  · exact notEscape _ (by decide)
  · exact notEscape _ (by decide)
  · rename_i noLineFeed noTab noReturn
    intro member
    obtain rfl := List.mem_singleton.1 member
    simp only [layoutControls, List.mem_cons, List.not_mem_nil, or_false] at control
    rcases control with isLineFeed | isReturn | isTab
    · exact noLineFeed isLineFeed
    · exact noReturn isReturn
    · exact noTab isTab

theorem not_mem_quoteText {c : Char} (control : c ∈ layoutControls) (content : List Char) :
    c ∉ quoteText content := by
  have noQuote : c ≠ '\'' := by
    rintro rfl
    exact absurd control (by decide)
  simp only [quoteText, List.mem_cons, List.mem_append, List.mem_flatMap, List.not_mem_nil,
    or_false, noQuote, false_or, not_exists, not_and]
  exact fun d _ => not_mem_escapeTextChar control d

/-- A quoted text in front of a text that begins with no quote is read as its content.  Behind it
the scan goes on as the scan of that text alone, further on by the length of the constant: the
same tokens and the same fault. -/
theorem scan_quoteText_append (s rest : String) (apart : rest.toList.head? ≠ some '\'') :
    let quoted := String.ofList (quoteText s.toList)
    let behind := (scan rest).behind quoted.length
    scan (quoted ++ rest) = ⟨⟨.text s, quoted, .start⟩ :: behind.tokens, behind.fault⟩ ∧
      ∀ c ∈ layoutControls, c ∉ quoted.toList := by
  have read := step_text (.inl rfl) (textInside_escape s.toList) apart
  have single : '\n' ∉ quoteText s.toList := not_mem_quoteText (by decide) _
  have constant : '\'' :: (s.toList.flatMap escapeTextChar ++ '\'' :: rest.toList).take
      ((s.toList.flatMap escapeTextChar).length + 1) = quoteText s.toList := by
    rw [List.take_length_add_append, quoteText]
    rfl
  have remainder : (s.toList.flatMap escapeTextChar ++ '\'' :: rest.toList).drop
      ((s.toList.flatMap escapeTextChar).length + 1) = rest.toList := by
    rw [List.drop_length_add_append]
    rfl
  intro quoted behind
  refine ⟨?_, fun c control => ?_⟩
  · have layout : (quoted ++ rest).toList =
        '\'' :: (s.toList.flatMap escapeTextChar ++ '\'' :: rest.toList) := by
      simp [quoted, quoteText]
    rw [scan, layout, scanFrom_token read, constant, remainder, Position.start_after single,
      scanFrom_behind (by decide)]
    simp only [behind, quoted, String.length_ofList, String.ofList_toList]
    rfl
  · rw [String.toList_ofList]
    exact not_mem_quoteText control s.toList

/-- A fault on the next line keeps its column. -/
theorem scan_quoteText_append_fault :
    "\n?".toList.head? ≠ some '\'' ∧
      scan ("'it''s\\\\\\n'" ++ "\n?") =
        ⟨[⟨.text "it's\\\n", "'it''s\\\\\\n'", .start⟩], some (.unexpected '?', ⟨2, 1, 12⟩)⟩ := by
  have apart : "\n?".toList.head? ≠ some '\'' := by decide
  have quoted : String.ofList (quoteText "it's\\\n".toList) = "'it''s\\\\\\n'" := by decide
  have alone : scan "\n?" = ⟨[], some (.unexpected '?', ⟨2, 1, 1⟩)⟩ := by decide +kernel
  have scanned := (scan_quoteText_append "it's\\\n" "\n?" apart).1
  rw [quoted, alone] at scanned
  exact ⟨apart, scanned⟩

end LogSelect

import Mathlib.Data.List.Induction
import LogSelect.Proofs.Token.Cut
import LogSelect.Proofs.Token.Scan

/-!
The tokens divide the text.

Every lexeme is the piece of the text at its place, lexemes stand one behind the other, and
nothing but blanks and comments lies between them.  Places count lines and columns as a reader
does.  A scan that stops at a fault has divided the text in front of the fault, and that text alone
has the same tokens.
-/

namespace LogSelect

/-! ## Places -/

namespace Position

def lineStart (cs : List Char) : Nat :=
  (cs.reverse.dropWhile (· != '\n')).length

/-- The line and the column of a place say where its offset is in a text. -/
structure PointsInto (pos : Position) (text : List Char) : Prop where
  inside : pos.offset ≤ text.length
  line : pos.line = 1 + (text.take pos.offset).count '\n'
  column : pos.column = pos.offset - lineStart (text.take pos.offset) + 1

theorem lineStart_le (cs : List Char) : lineStart cs ≤ cs.length := by
  have shorter := (List.dropWhile_suffix (l := cs.reverse) (· != '\n')).length_le
  rwa [List.length_reverse] at shorter

theorem lineStart_feed (cs : List Char) : lineStart (cs ++ ['\n']) = cs.length + 1 := by
  simp [lineStart]

theorem lineStart_other {c : Char} (other : c ≠ '\n') (cs : List Char) :
    lineStart (cs ++ [c]) = lineStart cs := by
  simp [lineStart, other]

theorem line_after (cs : List Char) : (start.after cs).line = 1 + cs.count '\n' := by
  induction cs using List.reverseRecOn with
  | nil => rfl
  | append_singleton cs c ih =>
    rw [after_append, after_cons, after_nil, next, List.count_append, List.count_singleton]
    by_cases feed : c = '\n'
    · subst feed
      simp [ih, Nat.add_assoc]
    · simp [ih, feed]

theorem column_after (cs : List Char) :
    (start.after cs).column = cs.length - lineStart cs + 1 := by
  induction cs using List.reverseRecOn with
  | nil => rfl
  | append_singleton cs c ih =>
    rw [after_append, after_cons, after_nil, next, List.length_append, List.length_singleton]
    by_cases feed : c = '\n'
    · subst feed
      simp [lineStart_feed]
    · have before := lineStart_le cs
      rw [if_neg feed, lineStart_other feed, ih, Nat.sub_add_comm before]

@[simp]
theorem offset_start : start.offset = 0 := rfl

theorem offset_after_start (cs : List Char) : (start.after cs).offset = cs.length := by
  simp

theorem pointsInto_after (cs rest : List Char) : (start.after cs).PointsInto (cs ++ rest) := by
  have front : (cs ++ rest).take (start.after cs).offset = cs := by
    rw [offset_after_start, List.take_left]
  constructor
  · rw [offset_after_start, List.length_append]
    exact Nat.le_add_right _ _
  · rw [front, line_after]
  · rw [front, column_after, offset_after_start]

end Position

namespace Token

/-! ## Blanks and comments -/

/-- A stretch of blanks and whole comments, in front of the text `rest`.  A comment goes on to the
end of its line or of the text. -/
inductive IsLayout (rest : List Char) : List Char → Prop where
  | nil : IsLayout rest []
  | blank {c cs} : isBlank c = true → IsLayout rest cs → IsLayout rest (c :: cs)
  | comment {inside cs} : '\n' ∉ inside → (∀ c ∈ (cs ++ rest).head?, c = '\n') →
      IsLayout rest cs → IsLayout rest ('-' :: '-' :: (inside ++ cs))

theorem numberStep_ne_skip {negative : Bool} {before extra : Nat} {cs : List Char} :
    numberStep negative before cs ≠ .skip extra := by
  unfold numberStep
  simp only
  split
  · split <;> exact nofun
  · exact nofun

theorem quotedNameStep_ne_skip {cs : List Char} {extra : Nat} :
    quotedNameStep cs ≠ .skip extra := by
  unfold quotedNameStep
  simp only
  split
  · exact nofun
  · split <;> exact nofun

theorem step_eq_skip {c : Char} {cs : List Char} {extra : Nat} (read : step c cs = .skip extra) :
    (isBlank c = true ∧ extra = 0) ∨
      (c = '-' ∧ ∃ tail, cs = '-' :: tail ∧ extra = (tail.takeWhile (· != '\n')).length + 1) := by
  unfold step at read
  split at read
  next blank =>
    cases read
    exact .inl ⟨blank, rfl⟩
  split at read
  next comment =>
    cases read
    obtain ⟨tail, rfl⟩ := List.head?_eq_some_iff.1 comment.2
    exact .inr ⟨comment.1, tail, rfl, rfl⟩
  split at read
  · cases read
  split at read
  · cases read
  split at read
  · split at read <;> cases read
  split at read
  · exact absurd read numberStep_ne_skip
  split at read
  · exact absurd read numberStep_ne_skip
  split at read
  · exact absurd read quotedNameStep_ne_skip
  split at read <;> cases read

theorem isLayout_of_step {c : Char} {cs gap rest : List Char} {extra : Nat}
    (read : step c cs = .skip extra) (behind : cs.drop extra = gap ++ rest)
    (layout : IsLayout rest gap) : IsLayout rest (c :: cs.take extra ++ gap) := by
  rcases step_eq_skip read with ⟨blank, rfl⟩ | ⟨rfl, tail, rfl, rfl⟩
  · exact .blank blank layout
  · rw [List.drop_succ_cons, drop_takeWhile] at behind
    rw [List.take_succ_cons, take_takeWhile]
    apply IsLayout.comment
    · intro feed
      have other := List.mem_takeWhile_imp feed
      simp at other
    · intro d front
      have stop := List.head?_dropWhile_not (· != '\n') tail
      rw [behind, front] at stop
      simpa using stop
    · exact layout

/-! ## The text between the tokens -/

def endOffset (t : Token) : Nat :=
  t.pos.offset + t.lexeme.length

def gaps (start stop : Nat) : List Token → List (Nat × Nat)
  | [] => [(start, stop)]
  | t :: ts => (start, t.pos.offset) :: gaps t.endOffset stop ts

/-- The offset that the scan of a text comes to: the place of the fault or the end. -/
def Scan.reach (scan : Scan) (text : List Char) : Nat :=
  match scan.fault with
  | some (_, pos) => pos.offset
  | none => text.length

def Scan.Consists (scan : Scan) (text : List Char) (ts : List Token) : Prop :=
  match scan.fault with
  | some _ => scan.tokens = ts
  | none => ∃ pos, pos.offset = text.length ∧ scan.tokens = ts ++ [⟨.stop, "", pos⟩]

/-- The tokens of a scan divide a text from the offset `start` on. -/
structure Divides (text : List Char) (start : Nat) (scan : Scan) : Prop where
  /-- Only the end of the text is a token without characters. -/
  tokens : ∃ ts, scan.Consists text ts ∧ ∀ t ∈ ts, t.body ≠ .stop ∧ t.lexeme ≠ ""
  lexeme : ∀ t ∈ scan.tokens, text.extract t.pos.offset t.endOffset = t.lexeme.toList
  apart : scan.tokens.Pairwise fun s t =>
    s.pos.offset < t.pos.offset ∧ s.endOffset ≤ t.pos.offset
  inside : ∀ t ∈ scan.tokens, start ≤ t.pos.offset ∧ t.endOffset ≤ scan.reach text
  reach : start ≤ scan.reach text
  /-- Outside the lexemes are blanks and comments. -/
  layout : ∀ gap ∈ gaps start (scan.reach text) scan.tokens,
    IsLayout (text.drop gap.2) (text.extract gap.1 gap.2)
  place : ∀ t ∈ scan.tokens, t.pos.PointsInto text
  fault : ∀ fault pos, scan.fault = some (fault, pos) → pos.PointsInto text

section Steps

variable {passed piece rest : List Char} {scan : Scan}

theorem Scan.Consists.cons {text : List Char} {ts : List Token}
    (consists : scan.Consists text ts) (t : Token) :
    Scan.Consists ⟨t :: scan.tokens, scan.fault⟩ text (t :: ts) := by
  unfold Scan.Consists at consists ⊢
  cases isFault : scan.fault with
  | some fault =>
    rw [isFault] at consists
    exact congrArg (t :: ·) consists
  | none =>
    rw [isFault] at consists
    obtain ⟨pos, offset, split⟩ := consists
    exact ⟨pos, offset, congrArg (t :: ·) split⟩

theorem extract_append (passed piece rest : List Char) (n : Nat) :
    (passed ++ (piece ++ rest)).extract passed.length (passed.length + piece.length + n) =
      piece ++ rest.take n := by
  simp [Nat.add_assoc, List.take_length_add_append]

theorem drop_append (passed piece rest : List Char) (n : Nat) :
    (passed ++ (piece ++ rest)).drop (passed.length + piece.length + n) = rest.drop n := by
  rw [← List.append_assoc, ← List.drop_drop]
  simp

theorem isLayout_extract {stop : Nat} (far : passed.length + piece.length ≤ stop)
    (extend : ∀ gap more, rest = gap ++ more → IsLayout more gap → IsLayout more (piece ++ gap))
    (layout : IsLayout ((passed ++ (piece ++ rest)).drop stop)
      ((passed ++ (piece ++ rest)).extract (passed.length + piece.length) stop)) :
    IsLayout ((passed ++ (piece ++ rest)).drop stop)
      ((passed ++ (piece ++ rest)).extract passed.length stop) := by
  obtain ⟨n, rfl⟩ := Nat.exists_eq_add_of_le far
  have behind : (passed ++ (piece ++ rest)).extract (passed.length + piece.length)
      (passed.length + piece.length + n) = rest.take n := by
    simp
  rw [drop_append, behind] at layout
  rw [drop_append, extract_append]
  exact extend _ _ (List.take_append_drop n rest).symm layout

theorem Divides.skip
    (extend : ∀ gap more, rest = gap ++ more → IsLayout more gap → IsLayout more (piece ++ gap))
    (divides : Divides (passed ++ (piece ++ rest)) (passed.length + piece.length) scan) :
    Divides (passed ++ (piece ++ rest)) passed.length scan where
  tokens := divides.tokens
  lexeme := divides.lexeme
  apart := divides.apart
  inside t member :=
    ⟨Nat.le_of_add_right_le (divides.inside t member).1, (divides.inside t member).2⟩
  reach := Nat.le_of_add_right_le divides.reach
  layout := by
    have layouts := divides.layout
    cases tokens : scan.tokens with
    | nil =>
      simp only [tokens, gaps, List.forall_mem_singleton] at layouts ⊢
      exact isLayout_extract divides.reach extend layouts
    | cons t ts =>
      simp only [tokens, gaps, List.forall_mem_cons] at layouts ⊢
      have first : t ∈ scan.tokens := tokens ▸ List.mem_cons_self
      exact ⟨isLayout_extract (divides.inside t first).1 extend layouts.1, layouts.2⟩
  place := divides.place
  fault := divides.fault

theorem Divides.token {t : Token} (proper : t.body ≠ .stop) (nonempty : piece ≠ [])
    (spelled : t.lexeme = String.ofList piece) (place : t.pos = Position.start.after passed)
    (divides : Divides (passed ++ (piece ++ rest)) (passed.length + piece.length) scan) :
    Divides (passed ++ (piece ++ rest)) passed.length ⟨t :: scan.tokens, scan.fault⟩ := by
  have offset : t.pos.offset = passed.length := by
    rw [place, Position.offset_after_start]
  have stop : t.endOffset = passed.length + piece.length := by
    rw [endOffset, offset, spelled, String.length_ofList]
  have positive := List.length_pos_iff.2 nonempty
  constructor
  · obtain ⟨ts, consists, propers⟩ := divides.tokens
    refine ⟨t :: ts, consists.cons t, ?_⟩
    rw [List.forall_mem_cons]
    refine ⟨⟨proper, ?_⟩, propers⟩
    rw [spelled]
    simpa using nonempty
  · rw [List.forall_mem_cons]
    refine ⟨?_, divides.lexeme⟩
    rw [offset, stop, spelled, String.toList_ofList]
    simp
  · rw [List.pairwise_cons]
    refine ⟨?_, divides.apart⟩
    intro s member
    have behind := (divides.inside s member).1
    rw [offset, stop]
    exact ⟨by omega, behind⟩
  · rw [List.forall_mem_cons]
    refine ⟨⟨Nat.le_of_eq offset.symm, ?_⟩, ?_⟩
    · rw [stop]
      exact divides.reach
    · intro s member
      exact ⟨Nat.le_of_add_right_le (divides.inside s member).1, (divides.inside s member).2⟩
  · exact Nat.le_of_add_right_le divides.reach
  · rw [gaps, List.forall_mem_cons, stop]
    refine ⟨?_, divides.layout⟩
    rw [offset]
    simp [IsLayout.nil]
  · rw [List.forall_mem_cons]
    refine ⟨?_, divides.place⟩
    rw [place]
    exact Position.pointsInto_after passed (piece ++ rest)
  · exact divides.fault

theorem divides_stop (passed : List Char) :
    Divides passed passed.length ⟨[⟨.stop, "", Position.start.after passed⟩], none⟩ := by
  have place : (Position.start.after passed).PointsInto passed := by
    simpa using Position.pointsInto_after passed []
  constructor
  · exact ⟨[], ⟨_, Position.offset_after_start passed, rfl⟩, by simp⟩
  · simp [endOffset]
  · simp
  · simp [endOffset, Scan.reach]
  · exact Nat.le_refl _
  · simp [gaps, endOffset, Scan.reach, IsLayout.nil]
  · simpa using place
  · exact nofun

theorem divides_fault (passed rest : List Char) (fault : Fault) :
    Divides (passed ++ rest) passed.length ⟨[], some (fault, Position.start.after passed)⟩ := by
  constructor
  · exact ⟨[], rfl, by simp⟩
  · simp
  · simp
  · simp
  · simp [Scan.reach]
  · simp [gaps, Scan.reach, IsLayout.nil]
  · simp
  · rintro _ _ ⟨⟩
    exact Position.pointsInto_after passed rest

end Steps

/-- The scan of the text behind `passed` divides it. -/
theorem scanFrom_divides (passed cs : List Char) :
    Divides (passed ++ cs) passed.length (scanFrom (Position.start.after passed) cs) := by
  induction cs using (measure List.length).wf.induction generalizing passed with
  | h cs shorter =>
    cases cs with
    | nil =>
      rw [scanFrom_nil, List.append_nil]
      exact divides_stop passed
    | cons c cs =>
      have behind (extra : Nat) :
          Divides (passed ++ (c :: cs.take extra ++ cs.drop extra))
            (passed.length + (c :: cs.take extra).length)
            (scanFrom ((Position.start.after passed).after (c :: cs.take extra))
              (cs.drop extra)) := by
        have less : (cs.drop extra).length < (c :: cs).length := by
          rw [List.length_drop, List.length_cons]
          omega
        have divides := shorter (cs.drop extra) less (passed ++ (c :: cs.take extra))
        rwa [Position.after_append, List.length_append, List.append_assoc] at divides
      have split (extra : Nat) : c :: cs = c :: cs.take extra ++ cs.drop extra := by
        rw [List.cons_append, List.take_append_drop]
      cases read : step c cs with
      | skip extra =>
        rw [scanFrom_skip read, split extra]
        apply Divides.skip _ (behind extra)
        intro gap more rest
        exact isLayout_of_step read rest
      | token body extra =>
        have lexeme := lexeme_of_step read
        rw [scanFrom_token read, split extra]
        exact (behind extra).token lexeme.ne_stop lexeme.ne_nil rfl rfl
      | fault fault =>
        have stopped : scanFrom (Position.start.after passed) (c :: cs) =
            ⟨[], some (fault, Position.start.after passed)⟩ := by
          rw [scanFrom, read]
        rw [stopped]
        exact divides_fault passed (c :: cs) fault

/-! ## The text in front of a fault -/

/-- A step is the same if the text ends somewhere behind what it takes. -/
theorem step_front {c : Char} {cs front rest : List Char} {extra : Nat}
    (inside : extra ≤ cs.length) (split : cs.drop extra = front ++ rest)
    (within : (step c cs).Within extra) : step c (cs.take extra ++ front) = step c cs := by
  have whole : cs.take extra ++ front ++ rest = cs := by
    rw [List.append_assoc, ← split, List.take_append_drop]
  have longer : extra ≤ (cs.take extra ++ front).length := by
    rw [List.length_append, List.length_take_of_le inside]
    exact Nat.le_add_right _ _
  have cut : step c (cs.take extra ++ front) = step c (cs.take extra ++ front ++ rest) := by
    apply step_cut
    rw [whole]
    exact within.mono longer
  rw [cut, whole]

theorem le_length_of_fault {pos : Position} {cs : List Char} {extra : Nat}
    {fault : Fault × Position} (faulty : (scanFrom pos (cs.drop extra)).fault = some fault) :
    extra ≤ cs.length := by
  refine Nat.le_of_not_lt fun beyond => ?_
  rw [List.drop_eq_nil_of_le (Nat.le_of_lt beyond), scanFrom_nil] at faulty
  cases faulty

theorem scanFrom_of_fault {pos place : Position} {cs : List Char} {fault : Fault}
    (faulty : (scanFrom pos cs).fault = some (fault, place)) :
    ∃ front rest, cs = front ++ rest ∧ place = pos.after front ∧
      scanFrom pos front = ⟨(scanFrom pos cs).tokens ++ [⟨.stop, "", place⟩], none⟩ := by
  fun_induction scanFrom pos cs with
  | case1 pos => cases faulty
  | case2 pos c cs extra read ih =>
    obtain ⟨front, rest, split, place, scanned⟩ := ih faulty
    have inside := le_length_of_fault faulty
    have again : step c (cs.take extra ++ front) = .skip extra := by
      rw [← read]
      exact step_front inside split (by rw [read]; exact Nat.le_refl _)
    refine ⟨c :: cs.take extra ++ front, rest, ?_, ?_, ?_⟩
    · rw [List.append_assoc, ← split, List.cons_append, List.take_append_drop]
    · rw [place, Position.after_append]
    · rw [List.cons_append, scanFrom_skip again,
        List.take_left' (List.length_take_of_le inside),
        List.drop_left' (List.length_take_of_le inside), scanned]
  | case3 pos c cs body extra read lexeme scan ih =>
    obtain ⟨front, rest, split, place, scanned⟩ := ih faulty
    have inside : extra ≤ cs.length := le_length_of_fault faulty
    have again : step c (cs.take extra ++ front) = .token body extra := by
      rw [← read]
      exact step_front inside split (by rw [read]; exact Nat.le_refl _)
    refine ⟨lexeme ++ front, rest, ?_, ?_, ?_⟩
    · rw [List.append_assoc, ← split, List.cons_append, List.take_append_drop]
    · rw [place, Position.after_append]
    · rw [List.cons_append, scanFrom_token again,
        List.take_left' (List.length_take_of_le inside),
        List.drop_left' (List.length_take_of_le inside), scanned]
      rfl
  | case4 pos c cs fault read =>
    cases faulty
    exact ⟨[], c :: cs, rfl, rfl, scanFrom_nil _⟩

/-- The tokens of a text divide it up to its end or to the fault.  The text in front of the fault
has the same tokens, and its end behind them. -/
theorem scan_divides (text : String) :
    Divides text.toList 0 (scan text) ∧
      ∀ fault pos, (scan text).fault = some (fault, pos) →
        scan (String.ofList (text.toList.take pos.offset)) =
          ⟨(scan text).tokens ++ [⟨.stop, "", pos⟩], none⟩ := by
  constructor
  · exact scanFrom_divides [] text.toList
  · intro fault pos faulty
    obtain ⟨front, rest, split, place, scanned⟩ := scanFrom_of_fault faulty
    have size : pos.offset = front.length := by
      rw [place, Position.offset_after_start]
    rw [size, split, List.take_left, scan, String.toList_ofList]
    exact scanned

/-- Behind a comment an open literal; in front of it stands one name. -/
theorem scan_divides_comment :
    (scan "a --b\n 'c").fault = some (.unterminatedText, ⟨2, 2, 7⟩) ∧
      scan "a --b\n " = ⟨[⟨.name "a", "a", ⟨1, 1, 0⟩⟩, ⟨.stop, "", ⟨2, 2, 7⟩⟩], none⟩ := by
  have scanned : scan "a --b\n 'c" =
      ⟨[⟨.name "a", "a", ⟨1, 1, 0⟩⟩], some (.unterminatedText, ⟨2, 2, 7⟩)⟩ := by
    decide +kernel
  have faulty := congrArg Scan.fault scanned
  have cut := (scan_divides "a --b\n 'c").2 _ _ faulty
  rw [scanned] at cut
  exact ⟨faulty, cut⟩

end Token

end LogSelect

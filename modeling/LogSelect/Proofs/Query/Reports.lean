import LogSelect.Proofs.Grammar.Earliest
import LogSelect.Proofs.Token.Partition

/-!
Which texts are refused with a report.

A text that is no query is refused with a report of the reason and of a place in the text.  The one
exception is a whole number with more digits than can be read: it stops the reading without a
report, wherever the scan of the text comes to it.
-/

namespace LogSelect

open Token

namespace Token

/-! ## Where a scan stops -/

/-- In front of `rest`, the scan takes a text in whole tokens, blanks and comments. -/
inductive Passes (rest : List Char) : List Char → Prop where
  | nil : Passes rest []
  | skip {c piece before} : step c (piece ++ (before ++ rest)) = .skip piece.length →
      Passes rest before → Passes rest (c :: piece ++ before)
  | token {c piece before body} : step c (piece ++ (before ++ rest)) = .token body piece.length →
      Passes rest before → Passes rest (c :: piece ++ before)

/-- What a scan passes has no influence on whether and why it stops later. -/
theorem Passes.fault_scanFrom {before rest : List Char} (passes : Passes rest before)
    (pos : Position) :
    (scanFrom pos (before ++ rest)).fault = (scanFrom (pos.after before) rest).fault := by
  induction passes generalizing pos with
  | nil => rfl
  | skip read _ ih =>
    rw [List.append_assoc, List.cons_append, scanFrom_skip read, List.take_left, List.drop_left,
      ih, Position.after_append]
  | token read _ ih =>
    rw [List.append_assoc, List.cons_append, scanFrom_token read, List.take_left, List.drop_left,
      ih, Position.after_append]

theorem passes_of_fault {pos place : Position} {cs : List Char} {fault : Fault}
    (stops : (scanFrom pos cs).fault = some (fault, place)) :
    ∃ before c rest, cs = before ++ c :: rest ∧ Passes (c :: rest) before ∧
      place = pos.after before ∧ step c rest = .fault fault := by
  fun_induction scanFrom pos cs with
  | case1 pos => cases stops
  | case2 pos c cs extra read ih =>
    obtain ⟨before, d, rest, split, passes, behind, fails⟩ := ih stops
    have size := List.length_take_of_le (le_length_of_fault stops)
    have again :
        step c (cs.take extra ++ (before ++ d :: rest)) = .skip (cs.take extra).length := by
      rw [← split, List.take_append_drop, size, read]
    refine ⟨c :: cs.take extra ++ before, d, rest, ?_, .skip again passes, ?_, fails⟩
    · rw [List.append_assoc, ← split, List.cons_append, List.take_append_drop]
    · rw [behind, Position.after_append]
  | case3 pos c cs body extra read lexeme scan ih =>
    obtain ⟨before, d, rest, split, passes, behind, fails⟩ := ih stops
    have size := List.length_take_of_le (le_length_of_fault stops)
    have again :
        step c (cs.take extra ++ (before ++ d :: rest)) = .token body (cs.take extra).length := by
      rw [← split, List.take_append_drop, size, read]
    refine ⟨lexeme ++ before, d, rest, ?_, .token again passes, ?_, fails⟩
    · rw [List.append_assoc, ← split, List.cons_append, List.take_append_drop]
    · rw [behind, Position.after_append]
  | case4 pos c cs fault read =>
    cases stops
    exact ⟨[], c, cs, rfl, .nil, rfl, read⟩

/-! ## Numbers that are too long -/

/-- At the front of a text stands a whole number of `size` digits, more than can be read.  Neither
another digit nor a fraction follows it. -/
structure Overlong (size : Nat) (cs : List Char) : Prop where
  tooLong : maxWholeDigits < size
  spelled : ∃ negative digits rest, cs = minus negative ++ (digits ++ rest) ∧
    digits.length = size ∧ (∀ c ∈ digits, isAsciiDigit c = true) ∧
    (∀ c ∈ rest.head?, isAsciiDigit c = false) ∧
    ∀ c more, rest = '.' :: c :: more → isAsciiDigit c = false

theorem fractionDigits_eq_nil_iff {rest : List Char} :
    fractionDigits rest = [] ↔ ∀ c more, rest = '.' :: c :: more → isAsciiDigit c = false := by
  constructor
  · rintro none c more rfl
    simpa [fractionDigits, asciiDigits, List.takeWhile_cons] using none
  · intro other
    unfold fractionDigits
    split
    next tail =>
      cases tail with
      | nil => rfl
      | cons c more => simp [asciiDigits, other c more rfl]
    next => rfl

theorem numberStep_tooLong {negative : Bool} {before : Nat} {digits rest : List Char}
    (long : maxWholeDigits < digits.length) (all : ∀ c ∈ digits, isAsciiDigit c = true)
    (stop : ∀ c ∈ rest.head?, isAsciiDigit c = false) (noFraction : fractionDigits rest = []) :
    numberStep negative before (digits ++ rest) = .fault (.numberTooLong digits.length) := by
  simp only [numberStep, asciiDigits_append all stop, List.drop_left, noFraction,
    List.isEmpty_nil, if_true, if_neg (Nat.not_le_of_lt long)]

theorem Overlong.step_eq {size : Nat} {c : Char} {cs : List Char}
    (overlong : Overlong size (c :: cs)) : step c cs = .fault (.numberTooLong size) := by
  obtain ⟨long, negative, digits, rest, split, rfl, all, stop, other⟩ := overlong
  have nonempty : digits ≠ [] := List.ne_nil_of_length_pos (Nat.zero_lt_of_lt long)
  rw [step_signed nonempty all split.symm]
  exact numberStep_tooLong long all stop (fractionDigits_eq_nil_iff.2 other)

theorem Overlong.of_numberStep {size before : Nat} {negative : Bool} {cs : List Char}
    (fails : numberStep negative before cs = .fault (.numberTooLong size)) :
    Overlong size (minus negative ++ cs) := by
  unfold numberStep at fails
  simp only at fails
  split at fails
  next noFraction =>
    split at fails
    next => cases fails
    next long =>
      cases fails
      have rest : cs.drop (asciiDigits cs).length = cs.dropWhile isAsciiDigit :=
        drop_takeWhile isAsciiDigit cs
      refine ⟨Nat.lt_of_not_le long, negative, asciiDigits cs, cs.dropWhile isAsciiDigit, ?_, rfl,
        fun c member => List.mem_takeWhile_imp member, fun c front => ?_, ?_⟩
      · rw [asciiDigits, List.takeWhile_append_dropWhile]
      · have stop := List.head?_dropWhile_not isAsciiDigit cs
        rw [front] at stop
        simpa using stop
      · rw [← fractionDigits_eq_nil_iff, ← rest]
        simpa using noFraction
  next => cases fails

theorem Overlong.of_step {size : Nat} {c : Char} {cs : List Char}
    (fails : step c cs = .fault (.numberTooLong size)) : Overlong size (c :: cs) := by
  unfold step at fails
  split at fails
  · cases fails
  split at fails
  · cases fails
  split at fails
  · cases fails
  split at fails
  · cases fails
  split at fails
  · split at fails <;> cases fails
  split at fails
  · exact Overlong.of_numberStep fails
  split at fails
  next isMinus =>
    obtain ⟨rfl, -⟩ := isMinus
    exact Overlong.of_numberStep fails
  split at fails
  next =>
    unfold quotedNameStep at fails
    simp only at fails
    split at fails
    · cases fails
    · split at fails <;> cases fails
  split at fails <;> cases fails

def NumbersFit (text : String) : Prop :=
  ∀ before rest size, text.toList = before ++ rest → Passes rest before → ¬ Overlong size rest

/-- A number that is too long stops the scan where it comes to it. -/
theorem fault_of_overlong {text : String} {before rest : List Char} {size : Nat}
    (split : text.toList = before ++ rest) (passes : Passes rest before)
    (overlong : Overlong size rest) :
    (scan text).fault = some (.numberTooLong size, Position.start.after before) := by
  obtain ⟨c, cs, rfl⟩ : ∃ c cs, rest = c :: cs := by
    apply List.exists_cons_of_ne_nil
    rintro rfl
    obtain ⟨long, negative, digits, rest, split, rfl, -⟩ := overlong
    have sizes := congrArg List.length split
    simp only [List.length_nil, List.length_append] at sizes
    omega
  rw [scan, split, passes.fault_scanFrom, scanFrom, overlong.step_eq]

theorem numbersFit_of_scan {text : String}
    (other : ∀ size pos, (scan text).fault ≠ some (.numberTooLong size, pos)) : NumbersFit text :=
  fun _ _ size split passes overlong => other size _ (fault_of_overlong split passes overlong)

end Token

/-! ## Reports -/

namespace QueryError

/-- The report of an error says of which of the two kinds it is, where in the text, and why. -/
structure IsReported (e : QueryError) (text : String) : Prop where
  message : ∃ kind ∈ ["LexError", "ParseError"], e.message = located kind e.reason e.pos
  place : e.pos.PointsInto text.toList

/-- A number that is too long is not reported: its text says of no kind that it is of it. -/
theorem not_isReported_numberTooLong (size : Nat) (pos : Position) (text : String) :
    ¬ (QueryError.text (.numberTooLong size) pos).IsReported text := by
  intro reported
  obtain ⟨kind, isKind, same⟩ := reported.message
  have front : (QueryError.text (.numberTooLong size) pos).message.toList.head? = some 'E' := by
    have exceeds : "Exceeds the limit (".toList.head? = some 'E' := rfl
    unfold message Token.Fault.reason
    simp only [String.toList_append, List.head?_append, exceeds, Option.some_or]
  have others : kind.toList.head? = some 'L' ∨ kind.toList.head? = some 'P' := by
    simp only [List.mem_cons, List.not_mem_nil, or_false] at isKind
    rcases isKind with rfl | rfl
    · exact .inl rfl
    · exact .inr rfl
  rw [same, located] at front
  rcases others with other | other <;>
    simp [String.toList_append, List.head?_append, other] at front

end QueryError

namespace Query

/-- What the reading of a text may come to.  Unless a number is too long, it is a query or a
report. -/
inductive Verdict (text : String) : Except QueryError Query → Prop where
  | query {query} : NumbersFit text → Verdict text (.ok query)
  | reported {e} : NumbersFit text → e.IsReported text → Verdict text (.error e)
  | overlong {before rest size} : text.toList = before ++ rest → Passes rest before →
      Overlong size rest →
      Verdict text (.error (.text (.numberTooLong size) (Position.start.after before)))

theorem verdict_of_fault {text : String} {fault : Fault} {pos : Position}
    (stops : (scan text).fault = some (fault, pos)) :
    Verdict text (.error (.text fault pos)) := by
  obtain ⟨before, c, rest, split, passes, rfl, fails⟩ := passes_of_fault stops
  have place : (Position.start.after before).PointsInto text.toList := by
    rw [split]
    exact Position.pointsInto_after before (c :: rest)
  by_cases long : ∃ size, fault = .numberTooLong size
  · obtain ⟨size, rfl⟩ := long
    exact .overlong split passes (.of_step fails)
  · have fit : NumbersFit text := by
      apply numbersFit_of_scan
      intro size pos same
      rw [stops] at same
      cases same
      exact long ⟨size, rfl⟩
    refine .reported fit ⟨⟨"LexError", by simp, ?_⟩, place⟩
    cases fault with
    | numberTooLong size => exact absurd ⟨size, rfl⟩ long
    | _ => rfl

theorem pointsInto_of_failure {text : String} {failure : Failure} {last : Token}
    (fails : ofTokens (scan text).tokens = .error failure)
    (isLast : last.pos.PointsInto text.toList) :
    (failure.rest.headD last).pos.PointsInto text.toList := by
  have places := (scanFrom_divides [] text.toList).place
  obtain ⟨us, split, -⟩ := read_fails (ofTokens_eq_error.1 fails)
  cases isRest : failure.rest with
  | nil => exact isLast
  | cons t rest =>
    refine places t ?_
    change t ∈ (scan text).tokens
    rw [split, isRest]
    simp

/-- Every text is a query, or it is refused with a report of the reason and the place, or the scan
comes to a whole number that is too long.  The last is no report, and it excludes the others. -/
theorem ofText_verdict (text : String) :
    Verdict text (ofText text) ∧
      ∀ size pos, ¬ (QueryError.text (.numberTooLong size) pos).IsReported text := by
  refine ⟨?_, fun size pos => QueryError.not_isReported_numberTooLong size pos text⟩
  unfold ofText
  dsimp only
  split
  next fault pos stops => exact verdict_of_fault stops
  next faultless =>
    have fit : NumbersFit text := numbersFit_of_scan (by simp [faultless])
    cases result : ofTokens (scan text).tokens with
    | ok query => exact .query fit
    | error failure =>
      refine .reported fit ⟨⟨"ParseError", by simp, rfl⟩, ?_⟩
      apply pointsInto_of_failure result
      cases tokens : (scan text).tokens using List.reverseRecOn with
      | nil => exact Position.pointsInto_after [] text.toList
      | append_singleton ts t =>
        rw [List.getLastD_concat]
        refine (scanFrom_divides [] text.toList).place t ?_
        change t ∈ (scan text).tokens
        rw [tokens]
        simp

theorem ofText_digits {size : Nat} (long : maxWholeDigits < size) :
    ofText (String.ofList (List.replicate size '1')) =
      .error (.text (.numberTooLong size) .start) := by
  have digits : ∀ c ∈ List.replicate size '1', isAsciiDigit c = true := by
    intro c member
    rw [List.eq_of_mem_replicate member]
    decide
  have overlong : Overlong size (List.replicate size '1') :=
    ⟨long, false, List.replicate size '1', [], by simp [minus], List.length_replicate, digits,
      by simp, by simp⟩
  have stops : (scan (String.ofList (List.replicate size '1'))).fault =
      some (.numberTooLong size, .start) :=
    fault_of_overlong (List.nil_append _ ▸ String.toList_ofList) .nil overlong
  unfold ofText
  dsimp only
  rw [stops]

/-- A text of 4301 digits is neither a query nor refused with a report. -/
theorem ofText_unreported :
    ∃ e, ofText (String.ofList (List.replicate 4301 '1')) = .error e ∧
      ¬ e.IsReported (String.ofList (List.replicate 4301 '1')) :=
  ⟨_, ofText_digits (by decide), QueryError.not_isReported_numberTooLong _ _ _⟩

end Query

end LogSelect

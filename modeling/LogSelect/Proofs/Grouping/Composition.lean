import LogSelect.Proofs.Grouping.Correctness
import LogSelect.Proofs.Order.Place
import LogSelect.Shell.LogRows

/-!
Reading a log in parts.

Where a part begins with a matching line, nothing of the part in front goes on in it, so the rows of
both are those of the one and then those of the other.  The row in the making is finished by the
matching line behind it before the texts of that line are converted: a text without value costs no
row but its own.
-/

namespace LogSelect

namespace Grouped

def append (first next : Grouped) : Grouped :=
  if first.failure.isSome then first
  else ⟨first.rows ++ next.rows, next.failure, first.dropped + next.dropped⟩

variable {first second third : Grouped}

theorem append_of_failure {e : ConvertError} (failed : first.failure = some e) :
    first.append second = first := by
  simp [append, failed]

theorem append_of_complete (complete : first.failure = none) :
    first.append second =
      ⟨first.rows ++ second.rows, second.failure, first.dropped + second.dropped⟩ := by
  simp [append, complete]

theorem append_assoc : (first.append second).append third = first.append (second.append third) := by
  cases failure : first.failure with
  | some e => simp only [append_of_failure failure]
  | none =>
    cases failure' : second.failure with
    | some e => simp [append, failure, failure']
    | none => simp [append, failure, failure', Nat.add_assoc]

end Grouped

namespace Grouping

variable {grouping : Grouping} {current : Option Draft} {dropped : Nat} {raw : String}
  {a b lines : List String}

/-- Nothing of the lines in front goes on in these: there are none, the first one matches, or no
column takes lines that match nothing. -/
def StartsAfresh (grouping : Grouping) (lines : List String) : Prop :=
  (∀ raw ∈ lines.head?, (grouping.recognise (trimLine raw)).isSome) ∨
    Schema.multilineColumn? grouping.columns = none

instance (grouping : Grouping) (lines : List String) : Decidable (grouping.StartsAfresh lines) :=
  inferInstanceAs (Decidable (_ ∨ _))

theorem groupFrom_failing {captures : Captures} {e : ConvertError}
    (recognised : grouping.recognise (trimLine raw) = some captures)
    (fails : grouping.begin captures = .error e) :
    grouping.groupFrom current dropped (raw :: lines) =
      Grouped.after current ⟨[], some e, dropped⟩ := by
  simp only [groupFrom, recognised, fails]

theorem after_append (current : Option Draft) (first second : Grouped) :
    Grouped.after current (first.append second) = (Grouped.after current first).append second := by
  cases failure : first.failure <;> simp [Grouped.after, Grouped.append, failure]

/-- What a line does to the row in the making: its texts have no value, or a new row takes its
place, or it is added to the row or dropped.  The lines behind it have no part in this. -/
theorem groupFrom_cons (grouping : Grouping) (current : Option Draft) (raw : String) :
    (∃ e, ∀ dropped lines, grouping.groupFrom current dropped (raw :: lines) =
        Grouped.after current ⟨[], some e, dropped⟩) ∨
      (∃ draft, ∀ dropped lines, grouping.groupFrom current dropped (raw :: lines) =
        Grouped.after current (grouping.groupFrom (some draft) dropped lines)) ∨
      ∃ next more, ∀ dropped lines, grouping.groupFrom current dropped (raw :: lines) =
        grouping.groupFrom next (dropped + more) lines := by
  cases recognised : grouping.recognise (trimLine raw) with
  | some captures =>
    cases begun : grouping.begin captures with
    | error e => exact .inl ⟨e, fun _ _ => groupFrom_failing recognised begun⟩
    | ok draft => exact .inr (.inl ⟨draft, fun _ _ => groupFrom_match recognised begun⟩)
  | none =>
    apply Or.inr
    apply Or.inr
    by_cases nowhere : current = none ∨ Schema.multilineColumn? grouping.columns = none
    · exact ⟨current, 1, fun _ _ => groupFrom_drop recognised nowhere⟩
    · obtain ⟨isSome, found⟩ := not_or.1 nowhere
      obtain ⟨draft, rfl⟩ := Option.ne_none_iff_exists'.1 isSome
      obtain ⟨name, found⟩ := Option.ne_none_iff_exists'.1 found
      exact ⟨some (draft.addLine name (trimLine raw)), 0,
        fun _ _ => groupFrom_add recognised found⟩

theorem groupFrom_dropped (grouping : Grouping) (current : Option Draft) (dropped : Nat)
    (lines : List String) :
    grouping.groupFrom current dropped lines =
      Grouped.append ⟨[], none, dropped⟩ (grouping.groupFrom current 0 lines) := by
  induction lines generalizing current dropped with
  | nil => rfl
  | cons raw lines ih =>
    rcases groupFrom_cons grouping current raw with
      ⟨e, fails⟩ | ⟨draft, begins⟩ | ⟨next, more, goesOn⟩
    · rw [fails, fails]
      rfl
    · rw [begins, begins, ih]
      rfl
    · rw [goesOn, goesOn, ih, ih next (0 + more), ← Grouped.append_assoc, Nat.zero_add]
      rfl

theorem groupFrom_of_match (isMatch : (grouping.recognise (trimLine raw)).isSome) :
    grouping.groupFrom current dropped (raw :: lines) =
      (grouping.groupFrom current dropped []).append (grouping.group (raw :: lines)) := by
  obtain ⟨captures, recognised⟩ := Option.isSome_iff_exists.1 isMatch
  cases begun : grouping.begin captures with
  | error e =>
    rw [group, groupFrom_failing recognised begun, groupFrom_failing recognised begun]
    simp [groupFrom, Grouped.after, Grouped.append]
  | ok draft =>
    rw [group, groupFrom_match recognised begun, groupFrom_match recognised begun,
      groupFrom_dropped, after_append]
    rfl

theorem groupFrom_of_startsAfresh (fresh : grouping.StartsAfresh lines) :
    grouping.groupFrom current dropped lines =
      (grouping.groupFrom current dropped []).append (grouping.group lines) := by
  induction lines generalizing dropped with
  | nil => simp [group, groupFrom, Grouped.after, Grouped.append]
  | cons raw lines ih =>
    cases recognised : grouping.recognise (trimLine raw) with
    | some captures =>
      apply groupFrom_of_match
      simp [recognised]
    | none =>
      have noColumn : Schema.multilineColumn? grouping.columns = none := by
        rcases fresh with isMatch | noColumn
        · simp [recognised] at isMatch
        · exact noColumn
      rw [group, groupFrom_drop recognised (.inr noColumn), groupFrom_drop recognised (.inl rfl),
        ih (.inr noColumn), groupFrom_dropped grouping none, ← Grouped.append_assoc]
      simp [groupFrom, Grouped.after, Grouped.append, group]

/-- The lines behind are grouped by themselves, unless they are not reached. -/
theorem groupFrom_append
    (fresh : (grouping.groupFrom current dropped a).failure = none → grouping.StartsAfresh b) :
    grouping.groupFrom current dropped (a ++ b) =
      (grouping.groupFrom current dropped a).append (grouping.group b) := by
  induction a generalizing current dropped with
  | nil =>
    apply groupFrom_of_startsAfresh
    exact fresh rfl
  | cons raw a ih =>
    rw [List.cons_append]
    rcases groupFrom_cons grouping current raw with
      ⟨e, fails⟩ | ⟨draft, begins⟩ | ⟨next, more, goesOn⟩
    · rw [fails, fails]
      rfl
    · rw [begins] at fresh
      rw [begins, begins, ih fresh, after_append]
    · rw [goesOn] at fresh
      rw [goesOn, goesOn, ih fresh]

end Grouping

/-! ## Directories -/

/-- A log says what the grouping of some lines gives. -/
structure LogRows.Tells (log : LogRows) (grouped : Grouped) : Prop where
  rows : log.rows = grouped.rows
  failure : log.failure = grouped.failure.map .convert

theorem LogRows.Tells.append {log next : LogRows} {grouped more : Grouped}
    (tells : log.Tells grouped) (others : next.Tells more) :
    (log.append next).Tells (grouped.append more) := by
  have failure := tells.failure
  cases failed : grouped.failure with
  | some e =>
    rw [failed, Option.map_some] at failure
    rw [Grouped.append_of_failure failed, LogRows.append, failure]
    exact tells
  | none =>
    rw [failed, Option.map_none] at failure
    rw [Grouped.append_of_complete failed, LogRows.append, failure]
    constructor
    · simp [tells.rows, others.rows]
    · exact others.failure

namespace Schema

variable {schema : Schema}

theorem readFile_tells (schema : Schema) (path : Path) (bytes : List Nat) :
    (schema.readFile path bytes).Tells (schema.grouping.group (lossyLines bytes)) :=
  ⟨rfl, rfl⟩

theorem foldl_readFile_tells {path : Path} {files : List (String × List Nat)}
    (fresh : ∀ file ∈ files, schema.grouping.StartsAfresh (lossyLines file.2)) {log : LogRows}
    {front : List String} (tells : log.Tells (schema.grouping.group front)) :
    (files.foldl (fun log (name, bytes) => log.append (schema.readFile (path.child name) bytes))
      log).Tells
        (schema.grouping.group (front ++ files.flatMap fun file => lossyLines file.2)) := by
  induction files generalizing log front with
  | nil => simpa using tells
  | cons file files ih =>
    have first := fresh file List.mem_cons_self
    have others := fun other member => fresh other (List.mem_cons_of_mem file member)
    rw [List.foldl_cons, List.flatMap_cons, ← List.append_assoc]
    apply ih others
    have appended : schema.grouping.group (front ++ lossyLines file.2) =
        (schema.grouping.group front).append (schema.grouping.group (lossyLines file.2)) :=
      Grouping.groupFrom_append fun _ => first
    rw [appended]
    exact tells.append (readFile_tells schema (path.child file.1) file.2)

theorem selectFiles_pairwise (schema : Schema) (files : List (String × List Nat)) :
    (schema.selectFiles files).Pairwise fun a b => codePoints a.1 ≤ codePoints b.1 := by
  have le (s t : String) : (compareCodes s.toList t.toList != .gt) = true ↔
      codePoints s ≤ codePoints t := by
    rw [bne_iff_ne]
    exact (compareCodes_compares s.toList t.toList).ne_gt
  have sorted : (schema.selectFiles files).Pairwise fun a b =>
      (compareCodes a.1.toList b.1.toList != .gt) = true := by
    apply List.pairwise_mergeSort
    · intro a b c before behind
      rw [le] at before behind ⊢
      exact before.trans behind
    · intro a b
      rw [Bool.or_eq_true, le, le]
      exact le_total _ _
  exact sorted.imp fun before => (le _ _).1 before

end Schema

namespace Grouping

/-- A log may be read in parts.  A failure in the first part hides the second; otherwise, if the
second starts afresh, its rows and its failure follow the rows of the first, and a text without
value in its first line costs none of them.  The files of a directory are read in the order of
their names, and as one if all but the first start afresh. -/
theorem group_append (grouping : Grouping) (a b : List String) :
    let first := grouping.group a
    let second := grouping.group b
    let whole := grouping.group (a ++ b)
    (∀ e, first.failure = some e →
        whole.rows = first.rows ∧ whole.failure = some e ∧ whole.dropped = first.dropped) ∧
      (first.failure = none → grouping.StartsAfresh b →
        whole.rows = first.rows ++ second.rows ∧ whole.failure = second.failure ∧
          whole.dropped = first.dropped + second.dropped) ∧
      (∀ raw rest captures e, b = raw :: rest → first.failure = none →
        grouping.recognise (trimLine raw) = some captures → grouping.begin captures = .error e →
          whole.rows = first.rows ∧ whole.failure = some e) ∧
      ∀ (schema : Schema) (path : Path) (files : List (String × List Nat)),
        let ordered := schema.selectFiles files
        let log := schema.readContent path (.directory files)
        let joined := schema.grouping.group (ordered.flatMap fun file => lossyLines file.2)
        ordered.Perm (files.filter fun file => schema.filenamePattern.matchesAll file.1) ∧
          ordered.Pairwise (fun a b => codePoints a.1 ≤ codePoints b.1) ∧
          ((∀ file ∈ ordered.tail, schema.grouping.StartsAfresh (lossyLines file.2)) →
            log.rows = joined.rows ∧ log.failure = joined.failure.map .convert) := by
  intro first second whole
  have appended (fresh : first.failure = none → grouping.StartsAfresh b) :
      whole = first.append second := groupFrom_append fresh
  have complete (isComplete : first.failure = none) (fresh : grouping.StartsAfresh b) :
      whole = ⟨first.rows ++ second.rows, second.failure, first.dropped + second.dropped⟩ := by
    rw [appended fun _ => fresh, Grouped.append_of_complete isComplete]
  refine ⟨?_, ?_, ?_, ?_⟩
  · intro e failed
    have unreached : first.failure = none → grouping.StartsAfresh b := by simp [failed]
    have same : whole = first := by rw [appended unreached, Grouped.append_of_failure failed]
    rw [same]
    exact ⟨rfl, failed, rfl⟩
  · intro isComplete fresh
    rw [complete isComplete fresh]
    exact ⟨rfl, rfl, rfl⟩
  · rintro raw rest captures e rfl isComplete recognised fails
    have alone : second = ⟨[], some e, 0⟩ := groupFrom_failing recognised fails
    rw [complete isComplete (.inl (by simp [recognised])), alone]
    exact ⟨List.append_nil _, rfl⟩
  · intro schema path files ordered log joined
    refine ⟨List.mergeSort_perm _ _, schema.selectFiles_pairwise files, ?_⟩
    intro fresh
    have tells : log.Tells joined := by
      simp only [log, joined, ordered, Schema.readContent] at fresh ⊢
      cases selected : schema.selectFiles files with
      | nil => exact ⟨rfl, rfl⟩
      | cons file later =>
        rw [selected] at fresh
        rw [List.foldl_cons, List.flatMap_cons]
        apply Schema.foldl_readFile_tells fresh
        exact ⟨rfl, rfl⟩
    exact ⟨tells.rows, tells.failure⟩

/-- The second part fails behind its first row, and the file `a` is read before the file `b`. -/
theorem group_append_failing :
    let pattern := "^(?P<n>\\w) (?P<m>.*)"
    let columns : List Column := [⟨"n", false, .i32⟩, ⟨"m", true, .string⟩]
    let first := ["1 one\n", "  more\n"]
    let second := ["2 two\n", "x three\n", "4 four\n"]
    let bytes (lines : List String) := (String.join lines).toList.map Char.toNat
    let files := [("b.log", bytes second), ("note", bytes second), ("a.log", bytes first)]
    let view (rows : List Row) := rows.map fun row => (row.get "n", row.get "m")
    let shown : List (Value × Value) :=
      [(.number (.int 1), .text "one\n  more"), (.number (.int 2), .text "two")]
    let error : ConvertError := .mismatch "n" .i32 "x"
    ∃ schema, Schema.build pattern columns ".*log" .null = .ok schema ∧
      (view (schema.grouping.group (first ++ second)).rows = shown ∧
        (schema.grouping.group (first ++ second)).failure = some error) ∧
      view (schema.readContent (.ofText ".") (.directory files)).rows = shown ∧
      (schema.readContent (.ofText ".") (.directory files)).failure = some (.convert error) := by
  intro pattern columns first second bytes files view shown error
  let a := ("a.log", bytes first)
  let b := ("b.log", bytes second)
  have facts : (match Schema.build pattern columns ".*log" .null with
      | .error _ => false
      | .ok schema =>
        let joined := schema.grouping.group (lossyLines a.2 ++ (lossyLines b.2 ++ []))
        decide (((schema.grouping.group first).failure = none ∧
            schema.grouping.StartsAfresh second ∧
            view ((schema.grouping.group first).rows ++ (schema.grouping.group second).rows) =
              shown ∧
            (schema.grouping.group second).failure = some error) ∧
          (files.filter fun file => schema.filenamePattern.matchesAll file.1) = [b, a] ∧
            schema.grouping.StartsAfresh (lossyLines b.2) ∧
            view joined.rows = shown ∧ joined.failure = some error)) = true := by
    decide +kernel
  cases built : Schema.build pattern columns ".*log" .null with
  | error e =>
    rw [built] at facts
    cases facts
  | ok schema =>
    rw [built] at facts
    obtain ⟨⟨complete, fresh, rows, failure⟩, selected, later, joined, joinedFailure⟩ :=
      of_decide_eq_true facts
    obtain ⟨-, appended, -, directories⟩ := group_append schema.grouping first second
    obtain ⟨wholeRows, wholeFailure, -⟩ := appended complete fresh
    obtain ⟨-, -, asOne⟩ := directories schema (.ofText ".") files
    have ordered : schema.selectFiles files = [a, b] := by
      rw [Schema.selectFiles, selected]
      simp [List.mergeSort, a, b, compareCodes]
    rw [ordered] at asOne
    obtain ⟨logRows, logFailure⟩ := asOne fun file member => by
      rw [List.mem_singleton.1 member]
      exact later
    refine ⟨schema, rfl, ⟨?_, ?_⟩, ?_, ?_⟩
    · rw [wholeRows]
      exact rows
    · rw [wholeFailure]
      exact failure
    · rw [logRows]
      exact joined
    · rw [logFailure]
      exact congrArg (Option.map LogError.convert) joinedFailure

end Grouping

end LogSelect

import LogSelect.Proofs.Grouping.Draft

/-!
Grouping gives one row for each matching line, and every line goes to one place.

The step lemmas are those of the row in the making; the run over the lines only adds that a loose
line belongs to the last matching one.
-/

namespace LogSelect.Grouping

variable {grouping : Grouping} {lines : List String}

def Converts (grouping : Grouping) (lines : List String) : Prop :=
  ∀ raw ∈ lines, ∀ captures, grouping.recognise (trimLine raw) = some captures →
    Convert grouping.columns captures

theorem converts_cons {raw : String} :
    grouping.Converts (raw :: lines) ↔
      (∀ captures, grouping.recognise (trimLine raw) = some captures →
        Convert grouping.columns captures) ∧ grouping.Converts lines :=
  List.forall_mem_cons

/-- What the grouping of some lines gives. -/
structure Gives (grouping : Grouping) (segments : List Segment) (dropped : Nat)
    (grouped : Grouped) : Prop where
  failure : grouped.failure = none
  rows : List.Forall₂ (Segment.Fills grouping.columns) segments grouped.rows
  dropped : grouped.dropped = dropped

/-! ## Single lines -/

theorem begin_holds (lawful : Schema.Lawful grouping.columns) {captures : Captures}
    (converts : Convert grouping.columns captures) (line : String) :
    ∃ draft, grouping.begin captures = .ok draft ∧
      draft.Holds grouping.columns ⟨line, captures, []⟩ :=
  (Draft.Holds.begun _).foldlM_capture lawful.distinct converts

theorem Gives.after {segment : Segment} {segments : List Segment} {draft : Draft} {dropped : Nat}
    {grouped : Grouped} (fills : segment.Fills grouping.columns draft.finish)
    (gives : grouping.Gives segments dropped grouped) :
    grouping.Gives (segment :: segments) dropped (Grouped.after (some draft) grouped) :=
  ⟨gives.failure, .cons fills gives.rows, gives.dropped⟩

section Lines

variable {raw : String} {current : Option Draft} {dropped : Nat}

theorem groupFrom_match {captures : Captures} {draft : Draft}
    (recognised : grouping.recognise (trimLine raw) = some captures)
    (begun : grouping.begin captures = .ok draft) :
    grouping.groupFrom current dropped (raw :: lines) =
      Grouped.after current (grouping.groupFrom (some draft) dropped lines) := by
  simp only [groupFrom, recognised, begun]

theorem groupFrom_add {draft : Draft} {name : String}
    (unknown : grouping.recognise (trimLine raw) = none)
    (found : Schema.multilineColumn? grouping.columns = some name) :
    grouping.groupFrom (some draft) dropped (raw :: lines) =
      grouping.groupFrom (some (draft.addLine name (trimLine raw))) dropped lines := by
  simp only [groupFrom, unknown, found]

theorem groupFrom_drop (unknown : grouping.recognise (trimLine raw) = none)
    (nowhere : current = none ∨ Schema.multilineColumn? grouping.columns = none) :
    grouping.groupFrom current dropped (raw :: lines) =
      grouping.groupFrom current (dropped + 1) lines := by
  rcases nowhere with rfl | none
  · simp only [groupFrom, unknown]
  · cases current <;> simp only [groupFrom, unknown, none]

end Lines

/-! ## Dropped lines -/

def droppedBehind (grouping : Grouping) (lines : List String) : Nat :=
  if (Schema.multilineColumn? grouping.columns).isSome then 0
  else (lines.filter grouping.isLoose).length

section Dropped

variable {raw name : String} {captures : Captures}

theorem droppedBehind_match (recognised : grouping.recognise (trimLine raw) = some captures) :
    grouping.droppedBehind (raw :: lines) = grouping.droppedBehind lines := by
  simp [droppedBehind, isLoose, recognised]

theorem droppedBehind_of_some (found : Schema.multilineColumn? grouping.columns = some name) :
    grouping.droppedBehind lines = 0 := by
  simp [droppedBehind, found]

theorem droppedBehind_loose (unknown : grouping.recognise (trimLine raw) = none)
    (none : Schema.multilineColumn? grouping.columns = none) :
    grouping.droppedBehind (raw :: lines) = grouping.droppedBehind lines + 1 := by
  simp [droppedBehind, isLoose, unknown, none]

end Dropped

/-! ## Runs -/

/-- The row in the making is finished with the loose lines in front of the next matching line. -/
theorem groupFrom_some (lawful : Schema.Lawful grouping.columns)
    (converts : grouping.Converts lines) {segment : Segment} {draft : Draft} (dropped : Nat)
    (holds : draft.Holds grouping.columns segment)
    (converted : Convert grouping.columns segment.captures) :
    grouping.Gives
      ({ segment with more := segment.more ++ grouping.looseLines lines } ::
        grouping.segments lines)
      (dropped + grouping.droppedBehind lines) (grouping.groupFrom (some draft) dropped lines) := by
  -- `segment.more` are the loose lines that have been seen since the matching line.
  induction lines generalizing segment draft dropped with
  | nil =>
    have fills := holds.finish lawful converted
    refine ⟨rfl, .cons ?_ .nil, ?_⟩
    · simpa [looseLines] using fills
    · simp [groupFrom, Grouped.after, droppedBehind]
  | cons raw lines ih =>
    obtain ⟨convertsLine, convertsRest⟩ := converts_cons.1 converts
    cases recognised : grouping.recognise (trimLine raw) with
    | some captures =>
      have convertedNext := convertsLine captures recognised
      obtain ⟨next, begun, holdsNext⟩ := begin_holds lawful convertedNext (trimLine raw)
      have gives := ih convertsRest dropped holdsNext convertedNext
      rw [groupFrom_match recognised begun, looseLines_match recognised,
        segments_match recognised, List.append_nil, droppedBehind_match recognised]
      exact gives.after (holds.finish lawful converted)
    | none =>
      rw [looseLines_loose recognised, segments_loose recognised]
      cases found : Schema.multilineColumn? grouping.columns with
      | some name =>
        have gives := ih convertsRest dropped
          (holds.addLine lawful found (trimLine raw)) converted
        rw [droppedBehind_of_some found] at gives ⊢
        rw [groupFrom_add recognised found]
        simpa using gives
      | none =>
        have gives := ih convertsRest (dropped + 1)
          (holds.ignore found (segment.more ++ [trimLine raw])) converted
        rw [groupFrom_drop recognised (.inr found), droppedBehind_loose recognised found,
          Nat.add_comm _ 1, ← Nat.add_assoc]
        simpa using gives

theorem group_gives (lawful : Schema.Lawful grouping.columns)
    (converts : grouping.Converts lines) (dropped : Nat) :
    grouping.Gives (grouping.segments lines)
      (dropped + if (Schema.multilineColumn? grouping.columns).isSome
        then (grouping.looseLines lines).length else (lines.filter grouping.isLoose).length)
      (grouping.groupFrom none dropped lines) := by
  induction lines generalizing dropped with
  | nil =>
    refine ⟨rfl, .nil, ?_⟩
    simp [groupFrom, Grouped.after, looseLines]
  | cons raw lines ih =>
    obtain ⟨convertsLine, convertsRest⟩ := converts_cons.1 converts
    cases recognised : grouping.recognise (trimLine raw) with
    | some captures =>
      have isMatch : grouping.isLoose raw = false := by simp [isLoose, recognised]
      have converted := convertsLine captures recognised
      obtain ⟨draft, begun, holds⟩ := begin_holds lawful converted (trimLine raw)
      have gives := groupFrom_some lawful convertsRest dropped holds converted
      rw [groupFrom_match recognised begun, looseLines_match recognised,
        segments_match recognised, List.filter_cons_of_neg (by simp [isMatch])]
      exact gives
    | none =>
      have loose : grouping.isLoose raw = true := by simp [isLoose, recognised]
      have gives := ih convertsRest (dropped + 1)
      rw [groupFrom_drop recognised (.inl rfl), looseLines_loose recognised,
        segments_loose recognised, List.filter_cons_of_pos loose, List.length_cons,
        List.length_cons]
      refine ⟨gives.failure, gives.rows, ?_⟩
      rw [gives.dropped]
      split <;> omega

/-! ## Schemas -/

/-- Whatever the lines of a log match, a schema groups them without loss, repetition or
misplacement: each matching line gives one row, in order, which holds its captures and, in the
multiline column, the loose lines behind it.  The loose lines in front of the first matching line,
or all of them if there is no multiline column, are dropped. -/
theorem group_exact {patternText filenameText : String} {columns : List Column} {table : Datum}
    {schema : Schema} (accepted : Schema.build patternText columns filenameText table = .ok schema)
    {recognise : String → Option Captures} {lines : List String}
    (converts : Converts ⟨schema.columns, recognise⟩ lines) :
    let grouping : Grouping := ⟨schema.columns, recognise⟩
    let first := grouping.looseLines lines
    let segments := grouping.segments lines
    let grouped := grouping.group lines
    (first ++ segments.flatMap (fun segment => segment.line :: segment.more) =
        lines.map trimLine ∧
      (∀ line ∈ first, recognise line = none) ∧
      ∀ segment ∈ segments, recognise segment.line = some segment.captures ∧
        ∀ line ∈ segment.more, recognise line = none) ∧
    grouped.failure = none ∧
      List.Forall₂ (Segment.Fills columns) segments grouped.rows ∧
      grouped.dropped = if columns.any (·.multiline) then first.length
        else (lines.filter fun raw => (recognise (trimLine raw)).isNone).length := by
  obtain ⟨same, lawful⟩ := Schema.columns_of_build accepted
  rw [same] at converts ⊢
  intro grouping first segments grouped
  have gives := group_gives lawful converts 0
  refine ⟨⟨looseLines_append_segments grouping lines, fun _ => recognise_of_mem_looseLines,
    fun _ => recognise_of_mem_segments⟩, gives.failure, gives.rows, ?_⟩
  have dropped := gives.dropped
  rw [Nat.zero_add, Schema.multilineColumn?, Option.isSome_map, List.isSome_find?] at dropped
  exact dropped

/-- A line in front of the first matching one is dropped; a column that captured nothing has the
lines behind, or is missing. -/
theorem group_exact_optional :
    let pattern := "(?P<level>[A-Z]+)?(?P<count>[0-9]+)?(?P<message>.*)"
    let columns : List Column :=
      [⟨"level", false, .string⟩, ⟨"count", false, .i32⟩, ⟨"message", true, .string⟩]
    let captures : Captures := fun name => if name = "level" then some "INFO" else none
    let counted : Captures := fun name => if name = "count" then some "7" else none
    let recognise : String → Option Captures := fun line =>
      if line = "INFO" then some captures else if line = "7" then some counted else none
    let lines := ["stray\n", "INFO\r\n", "  at main\n", "\n", "7"]
    ∃ schema, Schema.build pattern columns ".*" .null = .ok schema ∧
      Converts ⟨schema.columns, recognise⟩ lines ∧
      ∃ first second, (group ⟨schema.columns, recognise⟩ lines).rows = [first, second] ∧
        (first.get "level", first.get "count", first.get "message") =
          (.text "INFO", .missing, .text "  at main\n") ∧
        (second.get "level", second.get "count", second.get "message") =
          (.missing, .number (.int 7), .missing) ∧
        (group ⟨schema.columns, recognise⟩ lines).dropped = 1 := by
  intro pattern columns captures counted recognise lines
  obtain ⟨schema, built⟩ : ∃ schema, Schema.build pattern columns ".*" .null = .ok schema := by
    have accepted : (Schema.build pattern columns ".*" .null).isOk = true := by decide +kernel
    cases built : Schema.build pattern columns ".*" .null with
    | ok schema => exact ⟨schema, rfl⟩
    | error e => rw [built] at accepted; cases accepted
  have same := (Schema.columns_of_build built).1
  have seven : Column.convert ⟨"count", false, .i32⟩ "7" = .ok (.number (.int 7)) := by
    decide +kernel
  have converts : Converts ⟨schema.columns, recognise⟩ lines := by
    rw [same]
    intro raw _ found recognised column member text captured
    by_cases isText : column.type = .string
    · exact ⟨.text text, by simp [Column.convert, isText]⟩
    · obtain rfl : column = ⟨"count", false, .i32⟩ := by
        simp only [columns, List.mem_cons, List.not_mem_nil, or_false] at member
        rcases member with rfl | rfl | rfl
        · exact absurd rfl isText
        · rfl
        · exact absurd rfl isText
      simp only [recognise] at recognised
      split at recognised
      · cases recognised
        cases captured
      · split at recognised
        · cases recognised
          cases captured
          exact ⟨_, seven⟩
        · cases recognised
  have trimmed : trimLine "stray\n" = "stray" ∧ trimLine "INFO\r\n" = "INFO" ∧
      trimLine "  at main\n" = "  at main" ∧ trimLine "\n" = "" ∧ trimLine "7" = "7" := by
    decide +kernel
  have segments : segments ⟨schema.columns, recognise⟩ lines =
      [⟨"INFO", captures, ["  at main", ""]⟩, ⟨"7", counted, []⟩] := by
    simp [segments, looseLines, isLoose, lines, recognise, trimmed]
  have loose : looseLines ⟨schema.columns, recognise⟩ lines = ["stray"] := by
    simp [looseLines, isLoose, lines, recognise, trimmed]
  obtain ⟨-, failure, rows, dropped⟩ := group_exact built converts
  rw [segments] at rows
  rw [loose] at dropped
  cases result : (group ⟨schema.columns, recognise⟩ lines).rows with
  | nil => rw [result] at rows; cases rows
  | cons first others =>
    rw [result] at rows
    obtain ⟨fillsFirst, rows⟩ := List.forall₂_cons.1 rows
    cases others with
    | nil => cases rows
    | cons second others =>
      obtain ⟨fillsSecond, rows⟩ := List.forall₂_cons.1 rows
      cases rows
      refine ⟨schema, built, converts, first, second, result, ?_, ?_, dropped⟩
      · have level := fillsFirst.single ⟨"level", false, .string⟩ (by simp [columns]) rfl
        have count := fillsFirst.single ⟨"count", false, .i32⟩ (by simp [columns]) rfl
        have message := fillsFirst.multiline ⟨"message", true, .string⟩ (by simp [columns]) rfl
        rw [fillsFirst.text ⟨"level", false, .string⟩ (by simp [columns]) rfl _ level,
          fillsFirst.missing _ count,
          fillsFirst.text ⟨"message", true, .string⟩ (by simp [columns]) rfl _ message]
        decide +kernel
      · have level := fillsSecond.single ⟨"level", false, .string⟩ (by simp [columns]) rfl
        have count := fillsSecond.single ⟨"count", false, .i32⟩ (by simp [columns]) rfl
        have message := fillsSecond.multiline ⟨"message", true, .string⟩ (by simp [columns]) rfl
        obtain ⟨text, captured, -, converted⟩ := fillsSecond.typed ⟨"count", false, .i32⟩
          (by simp [columns]) (by decide) _ count
        cases captured
        have value := Except.ok.inj (converted.symm.trans seven)
        rw [fillsSecond.missing _ level, value, fillsSecond.missing _ message]

end LogSelect.Grouping

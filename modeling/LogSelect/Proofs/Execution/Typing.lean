import LogSelect.Proofs.Execution.Correctness
import LogSelect.Proofs.Grouping.Correctness
import LogSelect.Proofs.Schema.Typing

/-!
The same log under two schemas, one of which gives numbers where the other gives texts.

Rows of the same lines then have the same fields, and values that differ at most in being a number
or a text that reads as this number.  No sort key tells these apart, so the rows of the same lines
come to stand at the same indices of the results.
-/

namespace LogSelect

/-! ## Columns -/

/-- The types whose columns give texts as they are, or the numbers that texts read as. -/
def ColumnType.isPlain (type : ColumnType) : Bool :=
  type == .string || type.isNumeric

/-- Two columns that differ at most in giving texts or numbers. -/
structure Column.Retyped (c d : Column) : Prop where
  name : c.name = d.name
  multiline : c.multiline = d.multiline
  type : c.type = d.type ∨ c.type.isPlain = true ∧ d.type.isPlain = true

theorem Column.Retyped.symm {c d : Column} (retyped : c.Retyped d) : d.Retyped c :=
  ⟨retyped.name.symm, retyped.multiline.symm, retyped.type.imp Eq.symm And.symm⟩

theorem Column.Retyped.symmetric {columns columns' : List Column}
    (retyped : List.Forall₂ Column.Retyped columns columns') :
    List.Forall₂ Column.Retyped columns' columns :=
  (retyped.imp fun _ _ => Column.Retyped.symm).flip

theorem Column.Retyped.exists_of_mem {columns columns' : List Column} {c : Column}
    (retyped : List.Forall₂ Column.Retyped columns columns') (inside : c ∈ columns) :
    ∃ d ∈ columns', c.Retyped d := by
  induction retyped with
  | nil => cases inside
  | @cons first second _ _ pair _ ih =>
    rcases List.mem_cons.1 inside with rfl | inside
    · exact ⟨second, List.mem_cons_self, pair⟩
    · obtain ⟨d, member, pair⟩ := ih inside
      exact ⟨d, List.mem_cons_of_mem _ member, pair⟩

/-- The texts that columns of different types capture have no blanks at their ends. -/
def Captures.Stripped (captures : Captures) (columns columns' : List Column) : Prop :=
  ∀ c ∈ columns, ∀ d ∈ columns', c.name = d.name → c.type ≠ d.type →
    ∀ text, captures c.name = some text → stripText text = text

/-! ## Rows -/

def Row.Alike (a b : Row) : Prop :=
  ∀ name, (a.get name).Alike (b.get name)

namespace Segment.Fills

variable {columns columns' : List Column} {segment : Segment} {row row' : Row} {c d : Column}
  {name text : String} {lines : List String} {n : Number}

theorem numeric (fills : segment.Fills columns row) (inside : c ∈ columns)
    (isNumeric : c.type.isNumeric = true)
    (stripped : ∀ text, segment.captures c.name = some text → stripText text = text)
    (given : row.fields.get? c.name = some lines) :
    ∃ text n, lines = [text] ∧ (row.get c.name).number? = some n ∧
      Number.ofText? text = some n := by
  have typed : c.type ≠ .string := by
    intro isText
    rw [isText] at isNumeric
    cases isNumeric
  obtain ⟨text, captured, rfl, converts⟩ := fills.typed c inside typed lines given
  obtain ⟨n, isNumber, reads⟩ :=
    Column.number?_of_convert isNumeric (stripped text captured) converts
  exact ⟨text, n, rfl, isNumber, reads⟩

theorem plain (fills : segment.Fills columns row) (inside : c ∈ columns)
    (isPlain : c.type.isPlain = true)
    (stripped : ∀ text, segment.captures c.name = some text → stripText text = text)
    (given : row.fields.get? c.name = some [text]) (reads : Number.ofText? text = some n) :
    (row.get c.name).number? = some n := by
  by_cases isText : c.type = .string
  · rw [fills.text c inside isText [text] given]
    exact reads
  · have isNumeric : c.type.isNumeric = true := by
      simpa [ColumnType.isPlain, isText] using isPlain
    obtain ⟨text', n', same, isNumber, reads'⟩ := fills.numeric inside isNumeric stripped given
    obtain rfl : text = text' := (List.cons.inj same).1
    rw [isNumber, ← reads', reads]

theorem get_unique (fills : segment.Fills columns row) (fills' : segment.Fills columns' row')
    (inside : c ∈ columns) (inside' : c ∈ columns')
    (given : row.fields.get? c.name = some lines) (given' : row'.fields.get? c.name = some lines) :
    row.get c.name = row'.get c.name := by
  by_cases isText : c.type = .string
  · rw [fills.text c inside isText lines given, fills'.text c inside' isText lines given']
  · obtain ⟨text, _, rfl, converts⟩ := fills.typed c inside isText lines given
    obtain ⟨text', _, same, converts'⟩ := fills'.typed c inside' isText [text] given'
    obtain rfl : text = text' := (List.cons.inj same).1
    exact Except.ok.inj (converts.symm.trans converts')

section Pair

variable (fills : segment.Fills columns row) (fills' : segment.Fills columns' row')
  (retyped : List.Forall₂ Column.Retyped columns columns')
include fills fills' retyped

theorem fields_eq (name : String) : row.fields.get? name = row'.fields.get? name := by
  by_cases known : ∃ c ∈ columns, c.name = name
  · obtain ⟨c, inside, rfl⟩ := known
    obtain ⟨d, inside', pair⟩ := Column.Retyped.exists_of_mem retyped inside
    cases multiline : c.multiline with
    | true =>
      rw [fills.multiline c inside multiline, pair.name,
        fills'.multiline d inside' (pair.multiline ▸ multiline)]
    | false =>
      rw [fills.single c inside multiline, pair.name,
        fills'.single d inside' (pair.multiline ▸ multiline)]
  · have absent : row.fields.get? name = none := by
      by_contra given
      exact known (fills.known name (Record.mem_names.2 given))
    have absent' : row'.fields.get? name = none := by
      by_contra given
      obtain ⟨d, inside', rfl⟩ := fills'.known name (Record.mem_names.2 given)
      obtain ⟨c, inside, pair⟩ :=
        Column.Retyped.exists_of_mem (Column.Retyped.symmetric retyped) inside'
      exact known ⟨c, inside, pair.name.symm⟩
    rw [absent, absent']

/-- Rows of the same lines have values alike. -/
theorem alike (stripped : segment.captures.Stripped columns columns') : row.Alike row' := by
  intro name
  have fields := fields_eq fills fills' retyped name
  cases given : row.fields.get? name with
  | none =>
    have given' : row'.fields.get? name = none := fields ▸ given
    rw [fills.missing name given, fills'.missing name given']
    exact .inl rfl
  | some lines =>
    have given' : row'.fields.get? name = some lines := fields ▸ given
    have isField : row.fields.get? name ≠ none := by
      rw [given]
      exact Option.some_ne_none lines
    obtain ⟨c, inside, rfl⟩ := fills.known name (Record.mem_names.2 isField)
    obtain ⟨d, inside', pair⟩ := Column.Retyped.exists_of_mem retyped inside
    obtain ⟨name, multiline, type⟩ := c
    obtain ⟨_, _, type'⟩ := d
    obtain ⟨rfl, rfl, types⟩ := pair
    by_cases same : type = type'
    · subst same
      exact .inl (get_unique fills fills' inside inside' given given')
    · have bare := stripped _ inside _ inside' rfl same
      obtain ⟨isPlain, isPlain'⟩ := types.resolve_left same
      obtain ⟨text, n, rfl, reads⟩ : ∃ text n, lines = [text] ∧ Number.ofText? text = some n := by
        by_cases isText : type = .string
        · have isNumeric : type'.isNumeric = true := by
            simpa [ColumnType.isPlain, isText ▸ Ne.symm same] using isPlain'
          obtain ⟨text, n, isLine, -, reads⟩ := fills'.numeric inside' isNumeric bare given'
          exact ⟨text, n, isLine, reads⟩
        · have isNumeric : type.isNumeric = true := by
            simpa [ColumnType.isPlain, isText] using isPlain
          obtain ⟨text, n, isLine, -, reads⟩ := fills.numeric inside isNumeric bare given
          exact ⟨text, n, isLine, reads⟩
      have reads' := fills'.plain inside' isPlain' bare given' reads
      exact .inr ⟨n, fills.plain inside isPlain bare given reads, reads'⟩

end Pair

end Segment.Fills

/-! ## Results -/

namespace Query

variable {query : Query} {collation : Collation} {columns : List String} {a a' b b' : Row}
  {rows rows' : List Row}

theorem keyValue_alike (alike : a.Alike b) (key : OrderItem) :
    (query.keyValue columns a key).Alike (query.keyValue columns b key) := by
  unfold keyValue
  cases query.keyTerm columns key.term with
  | column name => exact alike name
  | _ => exact .inl rfl

theorem compareRows_alike (alike : a.Alike b) (alike' : a'.Alike b') :
    query.compareRows collation columns a a' = query.compareRows collation columns b b' :=
  compareRows_congr_order fun key _ =>
    Collation.order_congr (keyValue_alike alike key) (keyValue_alike alike' key)

def shownPlaces (query : Query) (collation : Collation) (columns : List String)
    (rows : List Row) : List Nat :=
  query.page ((stableSort (query.compareRows collation columns) rows).map Prod.snd)

theorem nodup_shownPlaces (rows : List Row) :
    (query.shownPlaces collation columns rows).Nodup :=
  (List.pairwise_map.2 (stableSort_pairwise_ne _ rows)).sublist (page_sublist query _)

theorem shown_eq_places (noFilter : query.filter = none) (rows : List Row) :
    (query.shown collation columns rows).map some =
      (query.shownPlaces collation columns rows).map (rows[·]?) := by
  have all : query.admitted collation rows = rows := by
    simp [admitted, noFilter]
  rw [shown, shownPlaces, all, page_map, page_map, List.map_map, List.map_map]
  apply List.map_congr_left
  intro member inside
  have sorted := (page_sublist query _).subset inside
  exact (List.mem_zipIdx_iff_getElem?.1 ((stableSort_perm _ rows).subset sorted)).symm

theorem shownPlaces_alike (alike : List.Forall₂ Row.Alike rows rows') :
    query.shownPlaces collation columns rows = query.shownPlaces collation columns rows' := by
  rw [shownPlaces, shownPlaces, map_snd_stableSort alike compareRows_alike]

/-- Of the rows of a feed, a query shows those at the given places, in the order of the places. -/
def ShowsPlaces {ε : Type} (query : Query) (collation : Collation) (columns : List String)
    (feed : Feed ε) (places : List Nat) : Prop :=
  ∃ exec outputs last, Execution.start collation query columns feed = .ok exec ∧
    exec.rest = (outputs, none, last) ∧
    outputs.map some = places.map fun place => feed.rows[place]?.map (query.outputRow columns)

theorem showsPlaces_shownPlaces {ε : Type} (renderable : query.IsRenderable)
    (noFilter : query.filter = none) (rows : List Row) :
    query.ShowsPlaces collation columns (⟨rows, none⟩ : Feed ε)
      (query.shownPlaces collation columns rows) := by
  refine ⟨_, _, _, start_eq renderable _, rest_unread renderable rows, ?_⟩
  have outputs := congrArg (List.map (Option.map (query.outputRow columns)))
    (@shown_eq_places query collation columns noFilter rows)
  rw [List.map_map, List.map_map] at outputs
  rw [List.map_map]
  exact outputs

end Query

namespace Schema

variable {schema schema' : Schema} {columns columns' : List Column} {lines : List String}

theorem captures_of_mem_segments {grouping : Grouping} {segment : Segment}
    (inside : segment ∈ grouping.segments lines) :
    ∃ raw ∈ lines, grouping.recognise (Grouping.trimLine raw) = some segment.captures := by
  have member : segment.line ∈ lines.map Grouping.trimLine := by
    rw [← Grouping.looseLines_append_segments grouping lines]
    exact List.mem_append_right _ (List.mem_flatMap.2 ⟨segment, inside, List.mem_cons_self⟩)
  obtain ⟨raw, inLines, same⟩ := List.mem_map.1 member
  exact ⟨raw, inLines, same ▸ (Grouping.recognise_of_mem_segments inside).1⟩

theorem segments_congr {grouping grouping' : Grouping}
    (same : grouping.recognise = grouping'.recognise) (lines : List String) :
    grouping.segments lines = grouping'.segments lines := by
  induction lines with
  | nil => rfl
  | cons raw lines ih =>
    have loose : grouping.isLoose = grouping'.isLoose := by
      funext raw
      rw [Grouping.isLoose, Grouping.isLoose, same]
    rw [Grouping.segments, Grouping.segments, same, ih, Grouping.looseLines, Grouping.looseLines,
      loose]

theorem rows_alike {segments : List Segment} {rows rows' : List Row}
    (fills : List.Forall₂ (Segment.Fills columns) segments rows)
    (fills' : List.Forall₂ (Segment.Fills columns') segments rows')
    (retyped : List.Forall₂ Column.Retyped columns columns')
    (stripped : ∀ segment ∈ segments, segment.captures.Stripped columns columns') :
    List.Forall₂ Row.Alike rows rows' := by
  induction fills generalizing rows' with
  | nil =>
    cases fills'
    exact .nil
  | cons first _ ih =>
    cases fills' with
    | cons first' others' =>
      obtain ⟨bare, others⟩ := List.forall_mem_cons.1 stripped
      exact .cons (first.alike first' retyped bare) (ih others' others)

theorem pattern_unique {patternText filenameText : String} {table : Datum}
    (accepted : build patternText columns filenameText table = .ok schema)
    (accepted' : build patternText columns' filenameText table = .ok schema') :
    schema.pattern = schema'.pattern := by
  obtain ⟨pattern, _, compiled, _, _, rfl⟩ := build_eq_ok accepted
  obtain ⟨pattern', _, compiled', _, _, rfl⟩ := build_eq_ok accepted'
  exact Except.ok.inj (compiled.symm.trans compiled')

theorem names_retyped (retyped : List.Forall₂ Column.Retyped columns columns') :
    columns.map (·.name) = columns'.map (·.name) := by
  induction retyped with
  | nil => rfl
  | cons pair _ ih => rw [List.map_cons, List.map_cons, pair.name, ih]

/-- A numeric type changes nothing in the order of a column.  The number that a column gives is
sorted as the text it was read from, and is compared as this text with missing values and with what
reads as a number.  So if two schemas differ in the choice between texts and numbers only, a query
without a filter shows the rows of the same lines in the same order. -/
theorem retyping_keeps_order :
    (∀ (column : Column) (text : String) (v w : Value) (collation : Collation),
      column.type.isNumeric = true → stripText text = text → column.convert text = .ok v →
        collation.order v w = collation.order (.text text) w ∧
          (w = .missing ∨ w.number? ≠ none →
            ∀ op, collation.compare v op w = collation.compare (.text text) op w)) ∧
    ∀ (patternText filenameText : String) (columns columns' : List Column) (table : Datum)
      (schema schema' : Schema) (lines : List String) (text : String) (query : Query)
      (collation : Collation),
      build patternText columns filenameText table = .ok schema →
      build patternText columns' filenameText table = .ok schema' →
      List.Forall₂ Column.Retyped columns columns' →
      schema.grouping.Converts lines → schema'.grouping.Converts lines →
      (∀ raw ∈ lines, ∀ captures,
        schema.grouping.recognise (Grouping.trimLine raw) = some captures →
          captures.Stripped columns columns') →
      Query.ofText text = .ok query → query.filter = none →
        let segments := schema.grouping.segments lines
        let grouped := schema.grouping.group lines
        let grouped' := schema'.grouping.group lines
        schema'.grouping.segments lines = segments ∧
          List.Forall₂ (Segment.Fills columns) segments grouped.rows ∧
          List.Forall₂ (Segment.Fills columns') segments grouped'.rows ∧
          ∃ places : List Nat, places.Nodup ∧
            query.ShowsPlaces collation schema.names grouped.feed places ∧
            query.ShowsPlaces collation schema'.names grouped'.feed places := by
  refine ⟨fun column text v w collation isNumeric stripped converts => ?_, ?_⟩
  · obtain ⟨n, isNumber, reads⟩ := Column.number?_of_convert isNumeric stripped converts
    have readsText : (Value.text text).number? = some n := reads
    exact ⟨Collation.order_left isNumber readsText w, fun numeric op =>
      Collation.compare_left isNumber readsText numeric op⟩
  · intro patternText filenameText columns columns' table schema schema' lines text query collation
      accepted accepted' retyped converts converts' stripped isRead noFilter
    obtain ⟨rfl, lawful⟩ := columns_of_build accepted
    obtain ⟨rfl, lawful'⟩ := columns_of_build accepted'
    have recognised : schema'.grouping.recognise = schema.grouping.recognise :=
      congrArg Pattern.search (pattern_unique accepted' accepted)
    have segments : schema'.grouping.segments lines = schema.grouping.segments lines :=
      segments_congr recognised lines
    have gives : schema.grouping.Gives _ _ (schema.grouping.group lines) :=
      Grouping.group_gives lawful converts 0
    have gives' : schema'.grouping.Gives _ _ (schema'.grouping.group lines) :=
      Grouping.group_gives lawful' converts' 0
    rw [segments] at gives'
    have bare : ∀ segment ∈ schema.grouping.segments lines,
        segment.captures.Stripped schema.columns schema'.columns := by
      intro segment inside
      obtain ⟨raw, inLines, isMatch⟩ := captures_of_mem_segments inside
      exact stripped raw inLines _ isMatch
    have alike := rows_alike gives.rows gives'.rows retyped bare
    have renderable := Query.isRenderable_of_ofText isRead
    have names : schema.names = schema'.names := names_retyped retyped
    refine ⟨segments, gives.rows, gives'.rows,
      query.shownPlaces collation schema.names (schema.grouping.group lines).rows,
      Query.nodup_shownPlaces _, ?_, ?_⟩
    · rw [Grouped.feed, gives.failure]
      exact Query.showsPlaces_shownPlaces renderable noFilter _
    · rw [Grouped.feed, gives'.failure, Query.shownPlaces_alike alike, names]
      exact Query.showsPlaces_shownPlaces renderable noFilter _

theorem exists_whole (type : ColumnType) (lines : List String)
    (holds : (build "(?P<n>.*)" [⟨"n", false, type⟩] ".*" .null).toOption.any (fun schema =>
      lines.all fun raw => (schema.pattern.search (Grouping.trimLine raw)).bind (· "n") ==
        some (Grouping.trimLine raw)) = true) :
    ∃ schema, build "(?P<n>.*)" [⟨"n", false, type⟩] ".*" .null = .ok schema ∧
      ∀ raw ∈ lines, ∀ captures, schema.grouping.recognise (Grouping.trimLine raw) = some captures →
        captures "n" = some (Grouping.trimLine raw) := by
  cases built : build "(?P<n>.*)" [⟨"n", false, type⟩] ".*" .null with
  | error e =>
    rw [built] at holds
    cases holds
  | ok schema =>
    rw [built] at holds
    refine ⟨schema, rfl, fun raw inside captures isMatch => ?_⟩
    have isLine := beq_iff_eq.1 (List.all_eq_true.1 holds raw inside)
    have searched : schema.pattern.search (Grouping.trimLine raw) = some captures := isMatch
    rw [searched] at isLine
    exact isLine

/-- The number `9` has the place of the text `9.0`, also in the results of a log. -/
theorem retyping_keeps_order_nine :
    let lines := ["10\n", "9.0\n", "9\n"]
    let nine : Number := .real (.ofDecimal false 90 (-1))
    let query : Query := ⟨[⟨.column "n", none⟩], none, [⟨.column "n", .ascending⟩], none, none⟩
    (∀ w, Collation.exact.order (.number nine) w = Collation.exact.order (.text "9.0") w) ∧
    ∃ schema schema' : Schema,
      build "(?P<n>.*)" [⟨"n", false, .string⟩] ".*" .null = .ok schema ∧
      build "(?P<n>.*)" [⟨"n", false, .float⟩] ".*" .null = .ok schema' ∧
      ∃ places : List Nat, places.Nodup ∧
        query.ShowsPlaces .exact schema.names (schema.grouping.group lines).feed places ∧
        query.ShowsPlaces .exact schema'.names (schema'.grouping.group lines).feed places := by
  intro lines nine query
  have reads : (⟨"n", false, .float⟩ : Column).convert "9.0" = .ok (.number nine) := by
    decide +kernel
  refine ⟨fun w => (retyping_keeps_order.1 ⟨"n", false, .float⟩ "9.0" (.number nine) w .exact rfl
    (by decide +kernel) reads).1, ?_⟩
  obtain ⟨schema, built, captured⟩ := exists_whole .string lines (by decide +kernel)
  obtain ⟨schema', built', captured'⟩ := exists_whole .float lines (by decide +kernel)
  have same := (columns_of_build built).1
  have same' := (columns_of_build built').1
  have bare : ∀ raw ∈ lines, stripText (Grouping.trimLine raw) = Grouping.trimLine raw := by
    decide +kernel
  have numeric : ∀ raw ∈ lines,
      ((⟨"n", false, .float⟩ : Column).convert (Grouping.trimLine raw)).isOk = true := by
    decide +kernel
  have converts : schema.grouping.Converts lines := by
    intro raw _ captures _ column member text _
    obtain rfl : column = ⟨"n", false, .string⟩ := by simpa [grouping, same] using member
    exact ⟨.text text, rfl⟩
  have converts' : schema'.grouping.Converts lines := by
    intro raw inside captures isMatch column member text isCaptured
    obtain rfl : column = ⟨"n", false, .float⟩ := by simpa [grouping, same'] using member
    obtain rfl := Option.some.inj ((captured' raw inside captures isMatch).symm.trans isCaptured)
    have converted := numeric raw inside
    cases result : (⟨"n", false, .float⟩ : Column).convert (Grouping.trimLine raw) with
    | ok v => exact ⟨v, rfl⟩
    | error e =>
      rw [result] at converted
      cases converted
  have retyped : List.Forall₂ Column.Retyped [⟨"n", false, .string⟩] [⟨"n", false, .float⟩] :=
    .cons ⟨rfl, rfl, .inr ⟨rfl, rfl⟩⟩ .nil
  obtain ⟨-, -, -, shown⟩ := retyping_keeps_order.2 "(?P<n>.*)" ".*" _ _ .null schema schema' lines
    "SELECT n ORDER BY n" query .exact built built' retyped converts converts'
    (by
      intro raw inside captures isMatch c member d _ _ _ text isCaptured
      obtain rfl := List.mem_singleton.1 member
      obtain rfl := Option.some.inj ((captured raw inside captures isMatch).symm.trans isCaptured)
      exact bare raw inside)
    (by decide +kernel) rfl
  exact ⟨schema, schema', built, built', shown⟩

end Schema

end LogSelect

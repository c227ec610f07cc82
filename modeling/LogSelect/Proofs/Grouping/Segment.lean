import LogSelect.Schema.Grouping

/-!
A log as its matching lines, each with the lines behind it that match nothing.

This is written apart from the grouping, which goes through the lines once and holds a row in the
making.  Here every matching line looks ahead to the next one, and nothing is carried along.
-/

namespace LogSelect

/-- A matching line without its line end, what it captured, and the lines behind it up to the next
matching one. -/
structure Segment where
  line : String
  captures : Captures
  more : List String

namespace Grouping

def isLoose (grouping : Grouping) (raw : String) : Bool :=
  (grouping.recognise (trimLine raw)).isNone

def looseLines (grouping : Grouping) (lines : List String) : List String :=
  (lines.takeWhile grouping.isLoose).map trimLine

/-- The matching lines in order, each with the loose lines behind it. -/
def segments (grouping : Grouping) : List String → List Segment
  | [] => []
  | raw :: lines =>
    match grouping.recognise (trimLine raw) with
    | some captures =>
      ⟨trimLine raw, captures, grouping.looseLines lines⟩ :: segments grouping lines
    | none => segments grouping lines

section Lines

variable {grouping : Grouping} {raw : String} {captures : Captures} {lines : List String}

theorem looseLines_match (recognised : grouping.recognise (trimLine raw) = some captures) :
    grouping.looseLines (raw :: lines) = [] := by
  simp [looseLines, isLoose, recognised]

theorem looseLines_loose (unknown : grouping.recognise (trimLine raw) = none) :
    grouping.looseLines (raw :: lines) = trimLine raw :: grouping.looseLines lines := by
  simp [looseLines, isLoose, unknown]

theorem segments_match (recognised : grouping.recognise (trimLine raw) = some captures) :
    grouping.segments (raw :: lines) =
      ⟨trimLine raw, captures, grouping.looseLines lines⟩ :: grouping.segments lines := by
  rw [segments, recognised]

theorem segments_loose (unknown : grouping.recognise (trimLine raw) = none) :
    grouping.segments (raw :: lines) = grouping.segments lines := by
  rw [segments, unknown]

end Lines

/-- The segments and the loose lines in front of them are all the lines, each once and in order. -/
theorem looseLines_append_segments (grouping : Grouping) (lines : List String) :
    grouping.looseLines lines ++
        (grouping.segments lines).flatMap (fun segment => segment.line :: segment.more) =
      lines.map trimLine := by
  induction lines with
  | nil => rfl
  | cons raw lines ih =>
    cases recognised : grouping.recognise (trimLine raw) with
    | none =>
      rw [looseLines_loose recognised, segments_loose recognised, List.cons_append, ih,
        List.map_cons]
    | some captures =>
      rw [looseLines_match recognised, segments_match recognised, List.flatMap_cons,
        List.nil_append, List.cons_append, ih, List.map_cons]

theorem recognise_of_mem_looseLines {grouping : Grouping} {lines : List String} {line : String}
    (member : line ∈ grouping.looseLines lines) : grouping.recognise line = none := by
  obtain ⟨raw, inside, rfl⟩ := List.mem_map.1 member
  have loose := List.all_eq_true.1 (List.all_takeWhile (p := grouping.isLoose) (l := lines)) raw
    inside
  exact Option.isNone_iff_eq_none.1 loose

theorem recognise_of_mem_segments {grouping : Grouping} {lines : List String} {segment : Segment}
    (member : segment ∈ grouping.segments lines) :
    grouping.recognise segment.line = some segment.captures ∧
      ∀ line ∈ segment.more, grouping.recognise line = none := by
  induction lines with
  | nil => exact absurd member List.not_mem_nil
  | cons raw lines ih =>
    cases recognised : grouping.recognise (trimLine raw) with
    | none =>
      rw [segments_loose recognised] at member
      exact ih member
    | some captures =>
      rw [segments_match recognised] at member
      rcases List.mem_cons.1 member with rfl | member
      · exact ⟨recognised, fun _ inside => recognise_of_mem_looseLines inside⟩
      · exact ih member

end Grouping

/-! ## What a segment gives the columns -/

/-- The lines that a segment gives a column: the captured text and, to the multiline column, the
lines behind. -/
def Segment.linesOf (segment : Segment) (column : Column) : List String :=
  (segment.captures column.name).toList ++ if column.multiline then segment.more else []

def field? (lines : List String) : Option (List String) :=
  if lines.isEmpty then none else some lines

@[simp]
theorem getD_field? (lines : List String) : (field? lines).getD [] = lines := by
  cases lines <;> rfl

@[simp]
theorem field?_append_singleton (lines : List String) (line : String) :
    field? (lines ++ [line]) = some (lines ++ [line]) := by
  simp [field?]

theorem field?_toList (text : Option String) :
    field? text.toList = text.map fun text => [text] := by
  cases text <;> rfl

theorem Segment.linesOf_multiline {segment : Segment} {column : Column}
    (multiline : column.multiline = true) :
    segment.linesOf column = (segment.captures column.name).toList ++ segment.more := by
  rw [linesOf, if_pos multiline]

theorem Segment.linesOf_single {segment : Segment} {column : Column}
    (single : column.multiline = false) :
    segment.linesOf column = (segment.captures column.name).toList := by
  rw [linesOf, single, if_neg Bool.false_ne_true, List.append_nil]

/-- What a row says of a segment. -/
structure Segment.Fills (columns : List Column) (segment : Segment) (row : Row) : Prop where
  /-- Apart from the multiline column, a column has the captured text, if there is one. -/
  single : ∀ column ∈ columns, column.multiline = false →
    row.fields.get? column.name = (segment.captures column.name).map fun text => [text]
  /-- The multiline column has the captured text and the lines behind it, if there is a line. -/
  multiline : ∀ column ∈ columns, column.multiline = true →
    row.fields.get? column.name =
      field? ((segment.captures column.name).toList ++ segment.more)
  /-- There are no other fields. -/
  known : ∀ name ∈ row.names, ∃ column ∈ columns, column.name = name
  /-- The value of a typed column is the one that its text converts to. -/
  typed : ∀ column ∈ columns, column.type ≠ .string → ∀ lines,
    row.fields.get? column.name = some lines →
      ∃ text, segment.captures column.name = some text ∧ lines = [text] ∧
        column.convert text = .ok (row.get column.name)
  /-- The value of a text column is all its lines. -/
  text : ∀ column ∈ columns, column.type = .string → ∀ lines,
    row.fields.get? column.name = some lines →
      row.get column.name = .text ("\n".intercalate lines)
  missing : ∀ name, row.fields.get? name = none → row.get name = .missing

end LogSelect

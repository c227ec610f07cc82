import LogSelect.Proofs.Grouping.Segment
import LogSelect.Proofs.Schema.Columns

/-!
A row in the making holds what the lines so far give the columns.

The invariant is kept by each capture of a matching line and by each line that is added behind it,
and it is all that the finished row is about.
-/

namespace LogSelect.Grouping

def Convert (columns : List Column) (captures : Captures) : Prop :=
  ∀ column ∈ columns, ∀ text, captures column.name = some text →
    ∃ v, column.convert text = .ok v

def valueOf (segment : Segment) (column : Column) : Option Value :=
  if column.type = .string then none
  else (segment.captures column.name).bind fun text => (column.convert text).toOption

/-- What a function gives for the column of a name. -/
def atName {α : Type} (columns : List Column) (f : Column → Option α) (name : String) : Option α :=
  (columns.find? fun column => column.name == name).bind f

section AtName

variable {α : Type} {f : Column → Option α} {columns : List Column} {column : Column}
  {name : String}

theorem atName_of_fresh (fresh : ∀ other ∈ columns, other.name ≠ name) :
    atName columns f name = none := by
  have absent : columns.find? (fun column => column.name == name) = none :=
    List.find?_eq_none.2 fun other inside => by simpa using fresh other inside
  rw [atName, absent, Option.bind_none]

theorem atName_append (fresh : ∀ other ∈ columns, other.name ≠ column.name) :
    atName (columns ++ [column]) f name =
      if name = column.name then f column else atName columns f name := by
  by_cases same : name = column.name
  · have absent : columns.find? (fun other => other.name == column.name) = none :=
      List.find?_eq_none.2 fun other inside => by simpa using fresh other inside
    rw [if_pos same, atName, List.find?_append, same, absent]
    simp
  · have other : (column.name == name) = false := by simpa using fun h => same h.symm
    rw [if_neg same, atName, List.find?_append, List.find?_cons, other, List.find?_nil,
      Option.or_none, atName]

theorem atName_append_none (fresh : ∀ other ∈ columns, other.name ≠ column.name)
    (nothing : f column = none) : atName (columns ++ [column]) f name = atName columns f name := by
  rw [atName_append fresh]
  split
  next same => rw [same, atName_of_fresh fresh, nothing]
  next => rfl

theorem atName_of_mem (lawful : Schema.Lawful columns) (inside : column ∈ columns) :
    atName columns f column.name = f column := by
  cases found : columns.find? fun other => other.name == column.name with
  | none => exact absurd (beq_self_eq_true column.name) (List.find?_eq_none.1 found column inside)
  | some other =>
    have same : other.name = column.name := by simpa using List.find?_some found
    have equal := lawful.eq_of_name (List.mem_of_find?_eq_some found) inside same
    rw [atName, found, Option.bind_some, equal]

theorem atName_ne_none (given : atName columns f name ≠ none) :
    ∃ column ∈ columns, column.name = name := by
  cases found : columns.find? fun other => other.name == name with
  | none => exact absurd (by rw [atName, found, Option.bind_none]) given
  | some column =>
    exact ⟨column, List.mem_of_find?_eq_some found, by simpa using List.find?_some found⟩

theorem atName_congr {g : Column → Option α} (same : ∀ column ∈ columns, f column = g column) :
    atName columns f name = atName columns g name := by
  unfold atName
  cases found : columns.find? fun other => other.name == name with
  | none => rfl
  | some column => exact same column (List.mem_of_find?_eq_some found)

end AtName

/-- A row in the making holds just what a segment gives the columns. -/
structure Draft.Holds (columns : List Column) (segment : Segment) (draft : Draft) : Prop where
  fields : ∀ name, draft.fields.get? name =
    atName columns (fun column => field? (segment.linesOf column)) name
  typed : ∀ name, draft.typed.get? name = atName columns (valueOf segment) name

namespace Draft.Holds

variable {columns : List Column} {segment : Segment} {draft : Draft}

theorem begun (segment : Segment) : Draft.Holds [] segment ⟨.empty, .empty⟩ :=
  ⟨fun _ => rfl, fun _ => rfl⟩

/-! ### Captures -/

theorem capture {line : String} {captures : Captures} {column : Column}
    (holds : draft.Holds columns ⟨line, captures, []⟩)
    (fresh : ∀ other ∈ columns, other.name ≠ column.name)
    (converts : ∀ text, captures column.name = some text → ∃ v, column.convert text = .ok v) :
    ∃ next, draft.capture captures column = .ok next ∧
      next.Holds (columns ++ [column]) ⟨line, captures, []⟩ := by
  have linesOf : (Segment.mk line captures []).linesOf column =
      (captures column.name).toList := by simp [Segment.linesOf]
  cases captured : captures column.name with
  | none =>
    have noLines : field? ((Segment.mk line captures []).linesOf column) = none := by
      rw [linesOf, captured]
      rfl
    have noValue : valueOf ⟨line, captures, []⟩ column = none := by simp [valueOf, captured]
    refine ⟨draft, by simp [Draft.capture, captured], ?_, ?_⟩
    · intro name
      rw [atName_append_none fresh noLines, holds.fields]
    · intro name
      rw [atName_append_none fresh noValue, holds.typed]
  | some text =>
    have fields : ∀ name, (draft.fields.put column.name [text]).get? name =
        atName (columns ++ [column])
          (fun column => field? ((Segment.mk line captures []).linesOf column)) name := by
      intro name
      rw [atName_append fresh, Record.get?_put, holds.fields, linesOf, captured]
      rfl
    by_cases isText : column.type = .string
    · refine ⟨{ draft with fields := draft.fields.put column.name [text] }, ?_, fields, ?_⟩
      · simp [Draft.capture, captured, isText]
      · intro name
        rw [atName_append_none fresh (if_pos isText), holds.typed]
    · obtain ⟨v, converted⟩ := converts text captured
      refine ⟨⟨draft.fields.put column.name [text], draft.typed.put column.name v⟩, ?_, fields, ?_⟩
      · simp [Draft.capture, captured, isText, converted, Except.map]
      · intro name
        have value : valueOf ⟨line, captures, []⟩ column = some v := by
          simp [valueOf, captured, isText, converted, Except.toOption]
        rw [atName_append fresh, Record.get?_put, holds.typed, value]

/-- The captures of all columns, one after the other. -/
theorem foldlM_capture {line : String} {captures : Captures} {rest : List Column}
    (holds : draft.Holds columns ⟨line, captures, []⟩)
    (distinct : ((columns ++ rest).map (·.name)).Nodup) (converts : Convert rest captures) :
    ∃ next, rest.foldlM (Draft.capture captures) draft = .ok next ∧
      next.Holds (columns ++ rest) ⟨line, captures, []⟩ := by
  induction rest generalizing columns draft with
  | nil => exact ⟨draft, rfl, by simpa using holds⟩
  | cons column rest ih =>
    have fresh : ∀ other ∈ columns, other.name ≠ column.name := by
      rw [List.map_append, List.nodup_append] at distinct
      intro other inside
      exact distinct.2.2 other.name (List.mem_map_of_mem inside) column.name (by simp)
    obtain ⟨middle, captured, holdsMiddle⟩ :=
      holds.capture fresh (converts column List.mem_cons_self)
    obtain ⟨next, folded, holdsNext⟩ := ih holdsMiddle (by simpa using distinct)
      (fun other inside => converts other (List.mem_cons_of_mem column inside))
    refine ⟨next, ?_, by simpa using holdsNext⟩
    rw [List.foldlM_cons, captured]
    exact folded

/-! ### Lines behind -/

theorem addLine (holds : draft.Holds columns segment) (lawful : Schema.Lawful columns)
    {name : String} (found : Schema.multilineColumn? columns = some name) (line : String) :
    (draft.addLine name line).Holds columns { segment with more := segment.more ++ [line] } := by
  obtain ⟨column, inside, rfl, only⟩ := lawful.multilineColumn found
  have multiline := (only column inside).2 rfl
  refine ⟨?_, holds.typed⟩
  intro name
  have before := holds.fields name
  by_cases same : name = column.name
  · subst same
    rw [atName_of_mem lawful inside] at before ⊢
    rw [Draft.addLine, Record.get?_put_same, before, getD_field?,
      Segment.linesOf_multiline multiline, Segment.linesOf_multiline multiline,
      ← List.append_assoc, field?_append_singleton]
  · rw [Draft.addLine, Record.get?_put_of_ne _ same, before]
    unfold atName
    cases foundOther : columns.find? fun other => other.name == name with
    | none => rfl
    | some other =>
      have single : other.multiline = false := by
        refine Bool.eq_false_iff.2 ?_
        intro isMultiline
        have isOther := (only other (List.mem_of_find?_eq_some foundOther)).1 isMultiline
        have named : other.name = name := by simpa using List.find?_some foundOther
        exact same (by rw [← named, isOther])
      simp [Segment.linesOf, single]

theorem ignore (holds : draft.Holds columns segment)
    (none : Schema.multilineColumn? columns = none) (more : List String) :
    draft.Holds columns { segment with more } := by
  refine ⟨?_, holds.typed⟩
  intro name
  rw [holds.fields]
  apply atName_congr
  intro column inside
  have single := Schema.multiline_of_none none inside
  rw [Segment.linesOf_single single, Segment.linesOf_single single]

/-! ### The finished row -/

theorem finish (holds : draft.Holds columns segment) (lawful : Schema.Lawful columns)
    (converts : Convert columns segment.captures) : segment.Fills columns draft.finish := by
  have fields : ∀ column ∈ columns,
      draft.finish.fields.get? column.name = field? (segment.linesOf column) := by
    intro column inside
    rw [Draft.finish, Row.ofFields, holds.fields, atName_of_mem lawful inside]
  have value : ∀ column ∈ columns, ∀ lines, draft.finish.fields.get? column.name = some lines →
      draft.finish.get column.name =
        (valueOf segment column).getD (.text ("\n".intercalate lines)) := by
    intro column inside lines given
    have typed : draft.finish.typed.get? column.name = valueOf segment column := by
      rw [Draft.finish, Row.ofFields] at given ⊢
      rw [Record.get?_filterNames, Record.contains_eq_isSome, given, Option.isSome_some,
        if_pos rfl, holds.typed, atName_of_mem lawful inside]
    rw [Row.get, Row.get?, given, typed]
    rfl
  refine ⟨?_, ?_, ?_, ?_, ?_, ?_⟩
  · intro column inside single
    rw [fields column inside, Segment.linesOf_single single, field?_toList]
  · intro column inside multiline
    rw [fields column inside, Segment.linesOf_multiline multiline]
  · intro name member
    have given := Record.mem_names.1 member
    rw [Draft.finish, Row.ofFields, holds.fields] at given
    exact atName_ne_none given
  · intro column inside isTyped lines given
    have single : column.multiline = false := by
      refine Bool.eq_false_iff.2 ?_
      intro multiline
      exact isTyped (lawful.text column inside multiline)
    have field := fields column inside
    rw [given, Segment.linesOf_single single, field?_toList] at field
    obtain ⟨text, captured, same⟩ := Option.map_eq_some_iff.1 field.symm
    obtain ⟨v, converted⟩ := converts column inside text captured
    refine ⟨text, captured, same.symm, ?_⟩
    rw [value column inside lines given]
    simp [valueOf, isTyped, captured, converted, Except.toOption]
  · intro column inside isText lines given
    rw [value column inside lines given, valueOf, if_pos isText, Option.getD_none]
  · intro name absent
    rw [Row.get, Row.get?, absent]
    rfl

end Draft.Holds

end LogSelect.Grouping

import LogSelect.Proofs.Schema.Definitions

/-!
Schemas that are saved and loaded again.

The definition of a schema leaves out what goes without saying: the type of a text column, that a
column is no multiline one, and the table where there is none.  Reading a definition puts each of
these back, so it builds the schema from the very parts that it has.
-/

namespace LogSelect

/-! ## Equality of data -/

namespace Datum

mutual

theorem same_self : (d : Datum) → d.same d = true
  | .null => by rw [same]
  | .bool b => by rw [same, beq_self_eq_true]
  | .number n => by rw [same, beq_self_eq_true]
  | .text s => by rw [same, beq_self_eq_true]
  | .list items => by rw [same, sameAll_self items]
  | .pair first second => by rw [same, same_self first, same_self second, Bool.and_self]
  | .map entries => by rw [same, sameEntries_self entries]
  | .set members => by rw [same, sameAll_self members]
  | .date d => by rw [same, beq_self_eq_true]
  | .moment m => by rw [same, beq_self_eq_true]
  | .bytes bs => by rw [same, beq_self_eq_true]

theorem sameAll_self : (items : List Datum) → sameAll items items = true
  | [] => by rw [sameAll]
  | item :: items => by rw [sameAll, same_self item, sameAll_self items, Bool.and_self]

theorem sameEntries_self : (entries : List (Datum × Datum)) → sameEntries entries entries = true
  | [] => by rw [sameEntries]
  | (key, value) :: entries => by
    rw [sameEntries, same_self key, same_self value, sameEntries_self entries, Bool.and_self,
      Bool.and_self]

end

theorem same_null_iff {d : Datum} : d.same .null = true ↔ d = .null := by
  constructor
  · intro same
    cases d with
    | null => rfl
    | _ => simp [Datum.same] at same
  · rintro rfl
    exact same_self _

end Datum

namespace Schema

variable {schema : Schema}

theorem same_self (schema : Schema) : schema.same schema = true := by
  simp [same, Datum.same_self]

/-! ## Columns -/

theorem columnOf_name (column : Column) :
    columnOf column.name column.type.name column.multiline = .ok column := by
  rw [columnOf, ColumnType.ofText?_name]

/-- A mapping with a name and, at most, the name of a type is read as the column of both. -/
theorem columnOfDatum_map {entries : List (Datum × Datum)} {name type : String}
    (named : Datum.lookupText "name" entries = some (.text name))
    (typed : (Datum.lookupText "type" entries).getD (.text "string") = .text type) :
    columnOfDatum (.map entries) =
      columnOf name type ((Datum.lookupText "multiline" entries).getD (.bool false)).truthy := by
  rw [columnOfDatum, named, typed]
  rfl

theorem columnOfDatum_columnToDatum (column : Column) :
    columnOfDatum (columnToDatum column) = .ok column := by
  rw [← columnOf_name column]
  unfold columnToDatum
  split
  next plain =>
    obtain ⟨single, text⟩ : column.multiline = false ∧ column.type = .string := by
      simpa using plain
    rw [columnOfDatum, single, text]
    rfl
  next =>
    refine (@columnOfDatum_map _ column.name column.type.name rfl ?_).trans ?_
    · cases column.multiline <;> by_cases text : column.type = .string <;>
        simp [Datum.lookupText, text, ColumnType.name]
    · congr
      cases column.multiline <;> by_cases text : column.type = .string <;>
        simp [Datum.lookupText, Datum.truthy, text]

/-! ## Schemas -/

theorem membersOf_list (items : List Datum) : membersOf (.list items) = .ok items := by
  cases items <;> rfl

theorem mapM_columnToDatum (columns : List Column) :
    (columns.map columnToDatum).mapM columnOfDatum = .ok columns := by
  have each : columnOfDatum ∘ columnToDatum = pure :=
    funext columnOfDatum_columnToDatum
  rw [List.mapM_map, each]
  exact List.mapM_pure.trans (congrArg Except.ok (List.map_id columns))

theorem getD_lookupText_table (table : Datum) :
    (Datum.lookupText "table" (if table.same .null then [] else [(.text "table", table)])).getD
      .null = table := by
  split
  next absent => exact (Datum.same_null_iff.1 absent).symm
  next => rfl

theorem ofDatum_toDatum_eq (schema : Schema) :
    ofDatum schema.toDatum =
      build schema.patternText schema.columns schema.filenameText schema.table := by
  conv_rhs => rw [← getD_lookupText_table schema.table]
  change (do
    let columns ← (← membersOf (.list (schema.columns.map columnToDatum))).mapM columnOfDatum
    let patternText ← textOf (.text schema.patternText)
    let filenameText ← textOf (.text schema.filenameText)
    build patternText columns filenameText _) = _
  rw [membersOf_list]
  change (do
    let columns ← (schema.columns.map columnToDatum).mapM columnOfDatum
    build schema.patternText columns schema.filenameText _) = _
  rw [mapM_columnToDatum]
  rfl

theorem build_parts {patternText filenameText : String} {columns : List Column} {table : Datum}
    (built : build patternText columns filenameText table = .ok schema) :
    build schema.patternText schema.columns schema.filenameText schema.table = .ok schema := by
  obtain ⟨_, _, _, _, _, rfl⟩ := build_eq_ok built
  exact built

/-- The schema of columns of which each is given by its name, any name of its type, and whether it
is a multiline one. -/
def ofParts (patternText : String) (columns : List (String × String × Bool))
    (filenameText : String) (table : Datum) : Except SchemaError Schema := do
  let columns ← columns.mapM fun (name, type, multiline) => columnOf name type multiline
  build patternText columns filenameText table

theorem exists_build_of_ofParts {patternText filenameText : String}
    {given : List (String × String × Bool)} {table : Datum}
    (accepted : ofParts patternText given filenameText table = .ok schema) :
    ∃ columns, build patternText columns filenameText table = .ok schema := by
  simp only [ofParts, bind, Except.bind] at accepted
  split at accepted
  · cases accepted
  · exact ⟨_, accepted⟩

/-- Every schema is what its own definition defines, whether it is built from parts or read from
another definition. -/
theorem ofDatum_toDatum :
    (∀ (patternText : String) (given : List (String × String × Bool)) (filenameText : String)
        (table : Datum) (schema : Schema),
        ofParts patternText given filenameText table = .ok schema →
          ∃ again, ofDatum schema.toDatum = .ok again ∧ again = schema ∧
            again.same schema = true) ∧
      ∀ (definition : Datum) (schema : Schema), ofDatum definition = .ok schema →
        ∃ again, ofDatum schema.toDatum = .ok again ∧ again = schema ∧
          again.same schema = true := by
  constructor
  · intro patternText given filenameText table schema accepted
    obtain ⟨columns, built⟩ := exists_build_of_ofParts accepted
    refine ⟨schema, ?_, rfl, same_self schema⟩
    rw [ofDatum_toDatum_eq, build_parts built]
  · intro definition schema accepted
    obtain ⟨patternText, columns, filenameText, table, built⟩ := exists_build_of_ofDatum accepted
    refine ⟨schema, ?_, rfl, same_self schema⟩
    rw [ofDatum_toDatum_eq, build_parts built]

/-- Types under other names and in capitals, a multiline column, and a table that is no text. -/
theorem ofDatum_toDatum_typed :
    ∃ schema, ofParts "(?P<ts>\\S+) (?P<ms>\\d+) (?P<msg>.*)"
        [("ts", "DateTime", false), ("ms", "LONG", false), ("msg", "str", true)] ".*\\.log"
        (.list [.text "app", .null]) = .ok schema ∧
      schema.columns = [⟨"ts", false, .datetime⟩, ⟨"ms", false, .i64⟩, ⟨"msg", true, .string⟩] ∧
      ∃ again, ofDatum schema.toDatum = .ok again ∧ again = schema ∧
        again.same schema = true := by
  let result := ofParts "(?P<ts>\\S+) (?P<ms>\\d+) (?P<msg>.*)"
    [("ts", "DateTime", false), ("ms", "LONG", false), ("msg", "str", true)] ".*\\.log"
    (.list [.text "app", .null])
  have columns : result.toOption.map (·.columns) =
      some [⟨"ts", false, .datetime⟩, ⟨"ms", false, .i64⟩, ⟨"msg", true, .string⟩] := by
    decide +kernel
  cases accepted : result with
  | error e =>
    rw [accepted] at columns
    cases columns
  | ok schema =>
    rw [accepted] at columns
    exact ⟨schema, accepted, Option.some.inj columns,
      ofDatum_toDatum.1 _ _ _ _ schema accepted⟩

end Schema

end LogSelect

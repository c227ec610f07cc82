import LogSelect.Datum
import LogSelect.Json.Read
import LogSelect.Pattern.Match
import LogSelect.Pattern.Read
import LogSelect.Schema.Column
import LogSelect.Yaml.Read

/-!
Schemas: how the lines of a log are divided into columns.

A schema is a pattern with a named group for every column.  A second pattern selects the files of a
directory by their names.  Column names are distinct, and at most one column takes the lines that
match nothing; it is a text column.
-/

namespace LogSelect

inductive SchemaError where
  | notAMapping
  | noPattern
  | badColumn (definition : Datum)
  | unknownType (type column : String)
  | badPattern (pattern : String)
  | badFilename (pattern : String)
  | noColumns
  | duplicateColumn
  | missingGroups (columns : List String)
  | severalMultiline (columns : List String)
  | typedMultiline (column : String) (type : ColumnType)
  | json (error : Json.ReadError)
  | yaml (error : Yaml.Error)
  | unreadable (path reason : String)
  | notUtf8
  /-- The path holds a character that no path may hold. -/
  | badPath
  /-- The columns are given as something that has no members. -/
  | columnsWithoutMembers
  /-- A part of the definition holds a whole number that is too long to be cited. -/
  | numberTooLong
  /-- A repetition in a pattern is out of bounds. -/
  | repetitionTooLarge
  /-- The number of a repetition or group has too many digits. -/
  | countTooLong
  /-- The flags of a pattern contradict each other. -/
  | flagConflict

structure Schema where
  patternText : String
  columns : List Column
  filenameText : String
  /-- The name of the source; it may be any datum. -/
  table : Datum
  pattern : Pattern
  filenamePattern : Pattern

namespace Schema

def names (schema : Schema) : List String :=
  schema.columns.map (·.name)

def multilineColumn? (columns : List Column) : Option String :=
  (columns.find? (·.multiline)).map (·.name)

/-- A pattern, whose faults are reported as `fault` or have a kind of their own. -/
def compile (fault : SchemaError) (text : String) : Except SchemaError Pattern :=
  (Pattern.ofText text).mapError fun
    | .malformed => fault
    | .repetitionTooLarge => .repetitionTooLarge
    | .countTooLong _ => .countTooLong
    | .flagConflict => .flagConflict

def checkColumns (groups : List String) (columns : List Column) : Except SchemaError Unit :=
  let names := columns.map (·.name)
  let missing := names.filter fun name => !groups.contains name
  let multiline := (columns.filter (·.multiline)).map (·.name)
  if names.isEmpty then .error .noColumns
  else if names.eraseDups.length < names.length then .error .duplicateColumn
  else if !missing.isEmpty then .error (.missingGroups missing)
  else if 1 < multiline.length then .error (.severalMultiline multiline)
  else
    match columns.find? fun column => column.multiline && column.type != .string with
    | some column => .error (.typedMultiline column.name column.type)
    | none => .ok ()

def build (patternText : String) (columns : List Column) (filenameText : String)
    (table : Datum) : Except SchemaError Schema := do
  let pattern ← compile (.badPattern patternText) patternText
  let filenamePattern ← compile (.badFilename filenameText) filenameText
  checkColumns (pattern.names.map Prod.fst) columns
  return ⟨patternText, columns, filenameText, table, pattern, filenamePattern⟩

def columnOf (name type : String) (multiline : Bool) : Except SchemaError Column :=
  match ColumnType.ofText? type with
  | some type => .ok ⟨name, multiline, type⟩
  | none => .error (.unknownType type name)

def textOf (part : Datum) : Except SchemaError String :=
  if part.isCitable then .ok part.toText else .error .numberTooLong

def refuseColumn (definition : Datum) : Except SchemaError Column :=
  .error (if definition.isCitable then .badColumn definition else .numberTooLong)

def columnOfDatum : Datum → Except SchemaError Column
  | .text name => columnOf name "string" false
  | .map entries =>
    match Datum.lookupText "name" entries with
    | none => refuseColumn (.map entries)
    | some name => do
      let name ← textOf name
      let type ← textOf ((Datum.lookupText "type" entries).getD (.text "string"))
      columnOf name type ((Datum.lookupText "multiline" entries).getD (.bool false)).truthy
  | datum => refuseColumn datum

/-- The members of a datum that lists columns.  What counts as false has none, a text has its
characters, a mapping its keys. -/
def membersOf (datum : Datum) : Except SchemaError (List Datum) :=
  if !datum.truthy then .ok []
  else
    match datum with
    | .list items => .ok items
    | .pair first second => .ok [first, second]
    | .set members => .ok members
    | .text s => .ok (s.toList.map fun c => .text (String.singleton c))
    | .map entries => .ok (entries.map Prod.fst)
    | .bytes bs => .ok (bs.map fun (b : Nat) => .number (.int b))
    | _ => .error .columnsWithoutMembers

def ofDatum : Datum → Except SchemaError Schema
  | .map entries => do
    let get (name : String) (default : Datum) : Datum :=
      (Datum.lookupText name entries).getD default
    match Datum.lookupText "regex" entries with
    | none => throw .noPattern
    | some pattern =>
      let columns ← (← membersOf (get "columns" .null)).mapM columnOfDatum
      let patternText ← textOf pattern
      let filenameText ← textOf (get "filename" (.text ".*"))
      build patternText columns filenameText (get "table" .null)
  | _ => .error .notAMapping

/-- The definition of a column: its name alone where nothing else is to be said. -/
def columnToDatum (column : Column) : Datum :=
  if !column.multiline && column.type == .string then
    .text column.name
  else
    .map ([(.text "name", .text column.name)]
      ++ (if column.multiline then [(.text "multiline", .bool true)] else [])
      ++ (if column.type == .string then [] else [(.text "type", .text column.type.name)]))

def toDatum (schema : Schema) : Datum :=
  .map ([(.text "regex", .text schema.patternText),
      (.text "filename", .text schema.filenameText),
      (.text "columns", .list (schema.columns.map columnToDatum))]
    ++ (if schema.table.same .null then [] else [(.text "table", schema.table)]))

def same (s t : Schema) : Bool :=
  s.patternText == t.patternText && s.columns == t.columns && s.filenameText == t.filenameText &&
    s.table.same t.table

end Schema

namespace SchemaError

/-- The report of the error; where a notation is at fault it ends in a colon. -/
def message : SchemaError → String
  | .notAMapping => "Schema must be a mapping"
  | .noPattern => "Schema is missing 'regex'"
  | .badColumn definition => "Invalid column definition: " ++ definition.describe
  | .unknownType type column => "Unknown type " ++ quoted type ++ " for column '" ++ column ++ "'"
  | .badPattern pattern => "Invalid regex " ++ quoted pattern ++ ": "
  | .badFilename pattern => "Invalid filename regex " ++ quoted pattern ++ ": "
  | .noColumns => "Schema must define at least one column"
  | .duplicateColumn => "Duplicate column name in schema"
  | .missingGroups columns =>
    "All columns must correspond to named capture groups. Missing: " ++ quotedList columns
  | .severalMultiline columns =>
    "There can only be one multiline column. Multiline columns: " ++ quotedList columns
  | .typedMultiline column type =>
    "Multiline column '" ++ column ++ "' must be of type string, not " ++ type.name
  | .json _ => "Schema is not valid JSON: "
  | .yaml _ => "Schema is not valid YAML: "
  | .unreadable path reason => "Cannot read schema file " ++ path ++ ": " ++ reason
  | .notUtf8 => "Schema is not in UTF-8"
  | .badPath => "Schema has no path"
  | .columnsWithoutMembers => "The columns have no members"
  | .numberTooLong => "A number of the definition is too long"
  | .repetitionTooLarge => "The repetition number is too large"
  | .countTooLong => "A number of a pattern is too long"
  | .flagConflict => "The flags of a pattern are incompatible"

/-- Whether the error is reported as a fault of the schema.  All others end the program. -/
def isReported : SchemaError → Bool
  | .json (.numeralTooLong _) => false
  | .yaml error => error == .malformed
  | .notUtf8 | .badPath | .columnsWithoutMembers | .numberTooLong | .repetitionTooLarge
  | .countTooLong | .flagConflict => false
  | _ => true

end SchemaError

end LogSelect

import LogSelect.Query.Execute
import LogSelect.Schema.Basic

/-!
Rows from the lines of a log.

A line that the pattern matches begins a row.  Each column takes the text of its group; a group
that took no part leaves the column out.  Lines that match nothing are added to the multiline
column of the row before them; without such a row or column they are dropped.

What lines match is given by a function, so that nothing here depends on the notation of patterns.
-/

namespace LogSelect

/-- What a matching line captured, by group names. -/
abbrev Captures := String → Option String

structure Grouping where
  columns : List Column
  recognise : String → Option Captures

/-- The rows of some lines up to a text without value, and the number of dropped lines. -/
structure Grouped where
  rows : List Row
  failure : Option ConvertError
  dropped : Nat

namespace Grouping

structure Draft where
  fields : Record (List String)
  typed : Record Value

def Draft.finish (draft : Draft) : Row :=
  Row.ofFields draft.fields draft.typed

def Draft.addLine (draft : Draft) (name line : String) : Draft :=
  { draft with fields := draft.fields.put name ((draft.fields.get? name).getD [] ++ [line]) }

def Draft.capture (captures : Captures) (draft : Draft) (column : Column) :
    Except ConvertError Draft :=
  match captures column.name with
  | none => .ok draft
  | some text =>
    let fields := draft.fields.put column.name [text]
    if column.type = .string then .ok { draft with fields }
    else (column.convert text).map fun v => ⟨fields, draft.typed.put column.name v⟩

def begin (grouping : Grouping) (captures : Captures) : Except ConvertError Draft :=
  grouping.columns.foldlM (Draft.capture captures) ⟨.empty, .empty⟩

def trimLine (line : String) : String :=
  String.ofList (dropRightWhile (fun c => c == '\r' || c == '\n') line.toList)

/-- Put the row in the making, if there is one, before the rows that follow. -/
def Grouped.after (current : Option Draft) (rest : Grouped) : Grouped :=
  { rest with rows := (current.map Draft.finish).toList ++ rest.rows }

/-- Group the remaining lines, given the row in the making and the number of lines dropped. -/
def groupFrom (grouping : Grouping) (current : Option Draft) (dropped : Nat) :
    List String → Grouped
  | [] => Grouped.after current ⟨[], none, dropped⟩
  | raw :: lines =>
    let line := trimLine raw
    match grouping.recognise line with
    | some captures =>
      Grouped.after current <|
        match grouping.begin captures with
        | .error e => ⟨[], some e, dropped⟩
        | .ok draft => groupFrom grouping (some draft) dropped lines
    | none =>
      match current, Schema.multilineColumn? grouping.columns with
      | some draft, some name => groupFrom grouping (some (draft.addLine name line)) dropped lines
      | current, _ => groupFrom grouping current (dropped + 1) lines

def group (grouping : Grouping) (lines : List String) : Grouped :=
  grouping.groupFrom none 0 lines

end Grouping

def Schema.grouping (schema : Schema) : Grouping :=
  ⟨schema.columns, schema.pattern.search⟩

def Grouped.feed (grouped : Grouped) : Feed ConvertError :=
  ⟨grouped.rows, grouped.failure⟩

end LogSelect

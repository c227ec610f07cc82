import LogSelect.Record
import LogSelect.Text.Quoted
import LogSelect.Value

/-!
Rows: one record of a log.  A row has lines of text under each field name, and may have a typed
value for a field; the typed value stands for the field in queries, the lines joined by line feeds
otherwise.
-/

namespace LogSelect

structure Row where
  fields : Record (List String)
  /-- Typed values; only names of fields count. -/
  typed : Record Value

namespace Row

/-- A row of the given fields and those typed values whose names are fields. -/
def ofFields (fields : Record (List String)) (typed : Record Value) : Row :=
  ⟨fields, typed.filterNames fields.contains⟩

def get? (row : Row) (name : String) : Option Value :=
  (row.fields.get? name).map fun lines =>
    (row.typed.get? name).getD (.text ("\n".intercalate lines))

def get (row : Row) (name : String) : Value :=
  (row.get? name).getD .missing

def lines (row : Row) (name : String) : List String :=
  (row.fields.get? name).getD []

def names (row : Row) : List String :=
  row.fields.names

def same (row other : Row) : Bool :=
  row.fields.sameMapping (· == ·) other.fields && row.typed.sameMapping Value.same other.typed

/-- Lines in round brackets; a single one is followed by a comma. -/
def showLines : List String → String
  | [line] => "(" ++ quoted line ++ ",)"
  | lines => "(" ++ ", ".intercalate (lines.map quoted) ++ ")"

def describe (row : Row) : String :=
  let field (entry : String × List String) : String := quoted entry.1 ++ ": " ++ showLines entry.2
  "Row(\x7b" ++ ", ".intercalate (row.fields.entries.map field) ++ "\x7d)"

end Row

end LogSelect

import LogSelect.Json.Write
import LogSelect.Query.Execute
import LogSelect.Table

/-!
How results are shown: as a table with the number of its rows, or as a JSON list of objects.
-/

namespace LogSelect

def Value.toDatum : Value → Datum
  | .text s => .text s
  | .number n => .number n
  | .missing => .null

/-- The row as an object. -/
def OutputRow.toDatum (row : OutputRow) : Datum :=
  .map (row.toRecord.entries.map fun (name, v) => (.text name, v.toDatum))

inductive Format where
  | table
  | json
  deriving DecidableEq, Repr

def Format.render (columns : List String) (rows : List OutputRow) : Format → String
  | .table =>
    (Table.format? columns (rows.map fun row => row.values.map Value.render)).getD "" ++ "\n(" ++
      toString rows.length ++ " row(s))\n"
  | .json => Json.write (.list (rows.map OutputRow.toDatum)) ++ "\n"

end LogSelect

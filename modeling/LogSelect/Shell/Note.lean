import LogSelect.Files.Path
import LogSelect.Query.Execute
import LogSelect.Text.Quoted

/-!
Notes on the progress of a program.
-/

namespace LogSelect

inductive Note where
  | loadedSchema (path : Path) (columns : List String)
  | readingFiles (count : Nat) (path : Path)
  | readingFile (path : Path)
  /-- Lines that belong to no row. -/
  | droppedLines (count : Nat)
  | foundPage (scanned matched page : Nat)
  | finished (stats : Stats)
  deriving DecidableEq, Repr

/-- The line that tells a note: its weight, the part of the program, and what there is to say. -/
def Note.text : Note → String
  | .loadedSchema path columns =>
    "DEBUG logquery.schema: Loaded schema " ++ path.text ++ " with columns " ++
      quotedList columns
  | .readingFiles count path =>
    "INFO logquery.ingest: Reading " ++ toString count ++ " file(s) from " ++ path.text
  | .readingFile path => "DEBUG logquery.ingest: Reading " ++ path.text
  | .droppedLines count =>
    "DEBUG logquery.ingest: Dropped " ++ toString count ++ " line(s) not matching the schema"
  | .foundPage scanned matched page =>
    "DEBUG logquery.executor: scanned=" ++ toString scanned ++ " matched=" ++ toString matched ++
      " page=" ++ toString page
  | .finished stats =>
    "INFO logquery.repl: stats: \x7b'rows_scanned': " ++ toString stats.scanned ++
      ", 'rows_matched': " ++ toString stats.matched ++ ", 'rows_returned': " ++
      toString stats.returned ++ "\x7d"

end LogSelect

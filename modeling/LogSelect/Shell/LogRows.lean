import LogSelect.Collation
import LogSelect.Files.Source
import LogSelect.Schema.Grouping
import LogSelect.Shell.Note

/-!
Rows from log files: those of one file, or of all files of a directory whose names the schema
selects, in the order of the names.  Every file starts afresh: no row goes on in the next file.
-/

namespace LogSelect

inductive LogError where
  | file (error : FileError) (path : Path)
  | convert (error : ConvertError)
  deriving DecidableEq

structure LogRows where
  rows : List Row
  failure : Option LogError
  notes : List Note

namespace LogRows

/-- One part of a log and then the next, which is not begun after an error. -/
def append (first next : LogRows) : LogRows :=
  if first.failure.isSome then first
  else ⟨first.rows ++ next.rows, next.failure, first.notes ++ next.notes⟩

def feed (log : LogRows) : Feed LogError :=
  ⟨log.rows, log.failure⟩

end LogRows

namespace Schema

def readFile (schema : Schema) (path : Path) (bytes : List Nat) : LogRows :=
  let grouped := schema.grouping.group (lossyLines bytes)
  let complete := grouped.failure.isNone
  ⟨grouped.rows, grouped.failure.map .convert, .readingFile path ::
    if complete && grouped.dropped != 0 then [.droppedLines grouped.dropped] else []⟩

/-- The rows of a file in front of a failure to read it.  The row that is in the making there is
lost. -/
def readBroken (schema : Schema) (path : Path) (lines : List String) (error : FileError) :
    LogRows :=
  let grouped := schema.grouping.group lines
  match grouped.failure with
  | some e => ⟨grouped.rows, some (.convert e), [.readingFile path]⟩
  | none => ⟨grouped.rows.dropLast, some (.file error path), [.readingFile path]⟩

def readStream (schema : Schema) (path : Path) : Stream → LogRows
  | .whole bytes => schema.readFile path bytes
  | .broken lines error => schema.readBroken path lines error

/-- The files of a directory that the schema selects, in the order of their names. -/
def selectFiles {α : Type} (schema : Schema) (files : List (String × α)) : List (String × α) :=
  (files.filter fun file => schema.filenamePattern.matchesAll file.1).mergeSort fun a b =>
    compareCodes a.1.toList b.1.toList != .gt

def readContent (schema : Schema) (path : Path) : Content → LogRows
  | .file bytes => schema.readFile path bytes
  | .directory files =>
    let files := schema.selectFiles files
    files.foldl (fun log (name, bytes) => log.append (schema.readFile (path.child name) bytes))
      ⟨[], none, [.readingFiles files.length path]⟩
  | .brokenFile lines error => schema.readBroken path lines error
  | .mixedDirectory files =>
    let files := schema.selectFiles files
    files.foldl (fun log (name, stream) => log.append (schema.readStream (path.child name) stream))
      ⟨[], none, [.readingFiles files.length path]⟩
  | .closedDirectory error => ⟨[], some (.file error path), []⟩

def readSource (schema : Schema) (path : Path) : Source → LogRows
  | .ok content => schema.readContent path content
  | .error e => ⟨[], some (.file e path), [.readingFile path]⟩

end Schema

end LogSelect

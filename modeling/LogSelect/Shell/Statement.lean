import LogSelect.Query.Error
import LogSelect.Shell.Format
import LogSelect.Shell.LogRows

/-!
The execution of one statement on a log.

The result is shown as a whole or not at all: all rows are pulled before anything is shown.  An
error of the query, of the log or of its files is reported.  A number that is too long, or a log
without a place, is no such error but a crash.
-/

namespace LogSelect

/-- A fault that is not reported as an error. -/
inductive Crash where
  /-- A whole number of so many digits. -/
  | numberTooLong (digits : Nat)
  /-- No path leads to the log. -/
  | noPath
  deriving DecidableEq, Repr

def Crash.message : Crash → String
  | .numberTooLong digits => (ConvertError.numberTooLong digits).message
  | .noPath => "expected str, bytes or os.PathLike object, not list"

inductive Outcome where
  | shown (output : String)
  | reported (message : String)
  | crashed (crash : Crash)
  deriving DecidableEq, Repr

structure Report where
  notes : List Note
  outcome : Outcome

def inputError (text : String) : Outcome :=
  .reported ("I/O error: " ++ text)

def QueryError.outcome : QueryError → Outcome
  | .text (.numberTooLong digits) _ => .crashed (.numberTooLong digits)
  | e => .reported e.message

def LogError.outcome : LogError → Outcome
  | .file e path => inputError (e.describe path)
  | .convert (.numberTooLong digits) => .crashed (.numberTooLong digits)
  | .convert e => .reported e.message

def PullError.outcome : PullError LogError → Outcome
  | .eval e => .reported e.message
  | .feed e => e.outcome

structure Setting where
  schema : Schema
  collation : Collation
  format : Format

namespace Setting

def execute (setting : Setting) (query : Query) (log : LogRows) : Report :=
  match Execution.start setting.collation query setting.schema.names log.feed with
  | .error e => ⟨[], .reported e.message⟩
  | .ok start =>
    let (rows, error, done) := start.rest
    let page := done.pageSize.map (Note.foundPage done.stats.scanned done.stats.matched)
    match error with
    | some e => ⟨log.notes ++ page.toList, e.outcome⟩
    | none => ⟨log.notes ++ page.toList ++ [.finished done.stats],
        .shown (setting.format.render done.columns rows)⟩

def lookError (path : Path) : FileError → Outcome
  | .absent | .notADirectory | .badName =>
    inputError ("No such file or directory: " ++ path.text)
  | e => inputError (e.describe path)

/-- Execute a statement on what a path leads to.  A path that leads nowhere is reported before the
statement is read. -/
def run (setting : Setting) (path : Path) (source : Source) (text : String) : Report :=
  match source with
  | .error e => ⟨[], lookError path e⟩
  | .ok content =>
    match Query.ofText text with
    | .error e => ⟨[], e.outcome⟩
    | .ok query => setting.execute query (setting.schema.readContent path content)

end Setting

end LogSelect

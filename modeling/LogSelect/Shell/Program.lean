import LogSelect.Schema.Load
import LogSelect.Shell.CommandLine
import LogSelect.Shell.Session

/-!
The whole program: it loads a schema and executes the query of the command line, or holds a
session if there is none.
-/

namespace LogSelect

open CommandLine (Options Stop)

inductive Finish where
  | exit (code : Nat) (written : Written)
  | stopped (stop : Stop)
  /-- The schema has a fault that is not reported. -/
  | badSchema (error : SchemaError)
  | crashed (crash : Crash)

inductive Task where
  | query (text : String)
  | session

def collationOf (options : Options) : Collation :=
  if options.ignoreCase then .ignoringCase else .exact

def shellOf (options : Options) (schema : Schema) : Shell :=
  ⟨⟨schema, collationOf options, if options.json then .json else .table⟩,
    options.log.map Path.ofText, options.verbose⟩

def taskOf (options : Options) : Task :=
  match options.query with
  | some text => .query text
  | none => .session

/-- Load the schema.  The shell comes with what is written on the way; a fault ends the run. -/
def open? (options : Options) (look : Path → Source) : Except Finish (Shell × Written) :=
  match options.schema.map Path.ofText with
  | none => .error (.crashed .noPath)
  | some path =>
    match Schema.load path (look path) with
    | .ok schema =>
      .ok (shellOf options schema,
        .ofNotes options.verbose [.loadedSchema path schema.names])
    | .error e =>
      .error (if e.isReported then .exit 2 ⟨"", e.message ++ "\n"⟩ else .badSchema e)

def finishStatement (shell : Shell) (before : Written) (report : Report) : Finish :=
  let finish (code : Nat) (written : Written) : Finish :=
    .exit code (before.append ((Written.ofNotes shell.verbose report.notes).append written))
  match report.outcome with
  | .shown output => finish 0 (.out output)
  | .reported message => finish 1 ⟨"", message ++ "\n"⟩
  | .crashed crash => .crashed crash

def runProgram (args : List String) (look : Path → Source) (inputs : List Input) : Finish :=
  match CommandLine.read args with
  | .error stop => .stopped stop
  | .ok options =>
    match open? options look with
    | .error finish => finish
    | .ok (shell, before) =>
      let source := (shell.path.map look).getD (.error .absent)
      match taskOf options with
      | .query text => finishStatement shell before (shell.execute source text)
      | .session =>
        .exit 0 (before.append (shell.greeting.append (shell.converse source .start inputs)))

end LogSelect

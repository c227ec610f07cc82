import LogSelect.Query.Statements
import LogSelect.Shell.Statement

/-!
Sessions: statements typed line by line, each executed when its semicolon has come.

A line that starts with a point is a command if no statement has been begun.  Everything else is
added to the text that waits for its semicolon.
-/

namespace LogSelect

structure Written where
  output : String
  aside : String
  deriving DecidableEq, Repr

namespace Written

def out (text : String) : Written :=
  ⟨text, ""⟩

def append (a b : Written) : Written :=
  ⟨a.output ++ b.output, a.aside ++ b.aside⟩

def ofNotes (verbose : Bool) (notes : List Note) : Written :=
  ⟨"", if verbose then String.join (notes.map fun note => note.text ++ "\n") else ""⟩

end Written

/-- The text that waits for its semicolon. -/
structure Session where
  pending : String
  deriving DecidableEq, Repr

inductive Command where
  | help
  | columns
  | leave
  | unknown (name : String)
  deriving DecidableEq, Repr

/-- What a line means in a session: a command, or the ends of statements and what then waits. -/
inductive Meaning where
  | command (command : Command)
  | statements (texts : List String) (session : Session)
  deriving DecidableEq, Repr

inductive Input where
  | line (text : String)
  | interrupt
  deriving DecidableEq, Repr

namespace Command

def ofName (name : String) : Command :=
  if name = ".exit" ∨ name = ".quit" then .leave
  else if name = ".help" then .help
  else if name = ".columns" then .columns
  else .unknown name

/-- The command that a line asks for: its first word, in any case, if that starts with a point. -/
def ofLine? (line : String) : Option Command :=
  match strip line.toList with
  | '.' :: rest =>
    some (ofName (lowerText (String.ofList ('.' :: rest.takeWhile (!isBlank ·)))))
  | _ => none

def answer (columns : List Column) : Command → String
  | .help =>
    "Meta commands:\n" ++
    "  .help              show this help\n" ++
    "  .columns           list schema columns\n" ++
    "  .exit / .quit      exit\n" ++
    "\n" ++
    "Queries end with ';'. Example:\n" ++
    "  SELECT ts, msg WHERE level = 'ERROR' ORDER BY ts DESC LIMIT 5;\n"
  | .columns =>
    let line (column : Column) : String :=
      "  - " ++ column.name ++ " " ++ column.type.name ++
        (if column.multiline then " (multiline)" else "") ++ "\n"
    String.join (columns.map line)
  | .leave => ""
  | .unknown name => "Unknown command: " ++ name ++ ". Type .help\n"

end Command

namespace Session

def start : Session :=
  ⟨""⟩

def prompt (session : Session) : String :=
  if session.pending.isEmpty then "logquery> " else "....> "

/-- Read a line.  A remainder of blanks behind the last semicolon is forgotten. -/
def read (session : Session) (line : String) : Meaning :=
  match if session.pending.isEmpty then Command.ofLine? line else none with
  | some command => .command command
  | none =>
    let text := session.pending ++ line ++ "\n"
    let (texts, rest) := splitStatements text
    if texts.isEmpty then .statements [] ⟨text⟩
    else .statements texts (if isBlankText rest then .start else ⟨rest⟩)

end Session

/-- A setting with the log that is queried, whose path may be lost, and whether notes are
wanted. -/
structure Shell where
  setting : Setting
  path : Option Path
  verbose : Bool

namespace Shell

def execute (shell : Shell) (source : Source) (text : String) : Report :=
  match shell.path with
  | some path => shell.setting.run path source text
  | none => ⟨[], .crashed .noPath⟩

def tell (shell : Shell) (report : Report) : Written :=
  (Written.ofNotes shell.verbose report.notes).append <|
    match report.outcome with
    | .shown output => .out output
    | .reported message => ⟨"", message ++ "\n"⟩
    | .crashed crash => .out ("Internal error: " ++ crash.message ++ "\n")

def greeting (shell : Shell) : Written :=
  .out ("logquery REPL (source=" ++ (shell.path.map Path.text).getD "[]" ++ ")\n" ++
    "Type .help for commands. End queries with ';'.\n")

def step (shell : Shell) (source : Source) (session : Session) :
    Input → Written × Option Session
  | .interrupt => (.out "\n", some .start)
  | .line text =>
    match session.read text with
    | .command .leave => (.out "", none)
    | .command command => (.out (command.answer shell.setting.schema.columns), some session)
    | .statements texts session =>
      let written := texts.map fun text => shell.tell (shell.execute source text)
      (written.foldl Written.append (.out ""), some session)

/-- What is written in a session, from a prompt on.  The end of the inputs ends the session. -/
def converse (shell : Shell) (source : Source) (session : Session) : List Input → Written
  | [] => .out (session.prompt ++ "\n")
  | input :: inputs =>
    let (written, next) := shell.step source session input
    (Written.out session.prompt).append <| written.append <|
      match next with
      | none => .out ""
      | some session => converse shell source session inputs

end Shell

end LogSelect

import LogSelect.Shell.Program

/-!
The program on real files.  Before each statement the log is read anew.
-/

namespace LogSelect.Main

def errorOf : IO.Error → FileError
  | .permissionDenied .. => .denied
  | .inappropriateType .. => .notADirectory
  | .noFileOrDirectory .. => .absent
  | _ => .nameTooLong

def readBytes (path : String) : IO (List Nat) := do
  return (← IO.FS.readBinFile path).toList.map UInt8.toNat

/-- A file as far as it can be read. -/
def openFile (path : String) : IO Stream := do
  try return .whole (← readBytes path)
  catch e => return .broken [] (errorOf e)

def listFiles (path : String) : IO Content := do
  try
    let place := (← IO.currentDir) / path
    let entries ← (← place.readDir).toList.filterM fun entry => do return !(← entry.path.isDir)
    .mixedDirectory <$> entries.mapM fun entry => do
      return (entry.fileName, ← openFile (path ++ "/" ++ entry.fileName))
  catch e => return .closedDirectory (errorOf e)

def look (path : Path) : IO Source := do
  let place := (← IO.currentDir) / path.text
  if ← place.isDir then return .ok (← listFiles path.text)
  match ← openFile path.text with
  | .whole bytes => return .ok (.file bytes)
  | .broken lines e =>
    if ← place.pathExists then return .ok (.brokenFile lines e) else return .error e

def lookAt? : Option Path → IO Source
  | some path => look path
  | none => return .error .absent

def put (written : Written) : IO Unit := do
  (← IO.getStdout).putStr written.output
  (← IO.getStdout).flush
  (← IO.getStderr).putStr written.aside

partial def converse (shell : Shell) (session : Session) : IO Unit := do
  put (.out session.prompt)
  let line ← (← IO.getStdin).getLine
  if line.isEmpty then put (.out "\n")
  else
    let text := if line.endsWith "\n" then (line.dropEnd 1).toString else line
    let (written, next) := shell.step (← lookAt? shell.path) session (.line text)
    put written
    match next with
    | some session => converse shell session
    | none => return

def finish : Finish → IO UInt32
  | .exit code written => do put written; return code.toUInt32
  | .stopped .help => do put (.out CommandLine.usageText); return 0
  | .stopped .usage => do put ⟨"", CommandLine.usageText⟩; return 2
  | .badSchema error => do put ⟨"", error.message ++ "\n"⟩; return 1
  | .crashed crash => do put ⟨"", crash.message ++ "\n"⟩; return 1

end LogSelect.Main

open LogSelect LogSelect.Main

def main (args : List String) : IO UInt32 := do
  match CommandLine.read args with
  | .error stop => finish (.stopped stop)
  | .ok options =>
    let source ← lookAt? (options.schema.map Path.ofText)
    match open? options fun _ => source with
    | .error result => finish result
    | .ok (shell, before) =>
      match taskOf options with
      | .query text =>
        finish (finishStatement shell before (shell.execute (← lookAt? shell.path) text))
      | .session => do
        put (before.append shell.greeting)
        converse shell .start
        return 0

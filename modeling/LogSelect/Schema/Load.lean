import LogSelect.Files.Source
import LogSelect.Schema.Read

/-!
Schemas from files.  A file named `.yaml` or `.yml`, in any case, is in YAML, all others in JSON.
-/

namespace LogSelect.Schema

def isYamlPath (path : Path) : Bool :=
  [".yaml", ".yml"].contains (lowerText path.suffix)

def load (path : Path) : Source → Except SchemaError Schema
  | .error .badName => .error .badPath
  | .error e => .error (.unreadable path.text (e.describe path))
  | .ok (.brokenFile _ e) => .error (.unreadable path.text (e.describe path))
  | .ok (.directory _) | .ok (.mixedDirectory _) | .ok (.closedDirectory _) =>
    .error (.unreadable path.text (FileError.isADirectory.describe path))
  | .ok (.file bytes) =>
    match strictText? bytes with
    | none => .error .notUtf8
    | some text => if isYamlPath path then ofYaml text else ofJson text

end LogSelect.Schema

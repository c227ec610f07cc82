import LogSelect.Datum

/-!
JSON texts of data, spread over lines.

Every member of a list and every entry of an object stands on a line of its own, indented by two
spaces for each level; empty lists and objects stay on one line.  In texts only quotes,
backslashes and control characters are escaped.  The floating-point values without a JSON form are
written by the names that the reader knows.
-/

namespace LogSelect.Json

def escape (c : Char) : List Char :=
  if c = '"' ∨ c = '\\' then ['\\', c]
  else if c = '\n' then ['\\', 'n']
  else if c = '\r' then ['\\', 'r']
  else if c = '\t' then ['\\', 't']
  else if c = '\x08' then ['\\', 'b']
  else if c = '\x0c' then ['\\', 'f']
  else if c.toNat < 32 then '\\' :: 'u' :: Quoted.hex 4 c.toNat
  else [c]

def quote (s : String) : String :=
  String.ofList ('"' :: (s.toList.flatMap escape ++ ['"']))

def numberText : Number → String
  | .real .nan => "NaN"
  | .real (.infinite negative) => if negative then "-Infinity" else "Infinity"
  | n => n.text

def newLine (level : Nat) : String :=
  String.ofList ('\n' :: List.replicate (2 * level) ' ')

/-- Items between brackets, each on a line of its own one level deeper. -/
def block (left right : String) (level : Nat) (items : List String) : String :=
  if items.isEmpty then left ++ right
  else
    left ++ newLine (level + 1) ++ ("," ++ newLine (level + 1)).intercalate items ++
      newLine level ++ right

mutual

/-- A datum whose first line stands at a level.  What JSON has no form for is written as a
text. -/
def writeAt (level : Nat) : Datum → String
  | .null => "null"
  | .bool b => if b then "true" else "false"
  | .number n => numberText n
  | .text s => quote s
  | .list items => block "[" "]" level (writeMembers level items)
  | .map entries => block "\x7b" "\x7d" level (writeEntries level entries)
  | datum => quote datum.toText

def writeMembers (level : Nat) : List Datum → List String
  | [] => []
  | item :: items => writeAt (level + 1) item :: writeMembers level items

def writeEntries (level : Nat) : List (Datum × Datum) → List String
  | [] => []
  | (key, value) :: entries =>
    (quote key.toText ++ ": " ++ writeAt (level + 1) value) :: writeEntries level entries

end

def write (datum : Datum) : String :=
  writeAt 0 datum

end LogSelect.Json

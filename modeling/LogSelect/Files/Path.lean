import LogSelect.Text.Lines

/-!
Paths of files.  Repeated and trailing slashes and the component `.` say nothing and are dropped;
`..` is kept, since it leads to the parent of a directory only where there is one.
-/

namespace LogSelect

/-- A path: the slashes of the root, if it starts there, and the names on the way. -/
structure Path where
  root : String
  parts : List String
  deriving DecidableEq, Repr

namespace Path

/-- The root that a number of leading slashes denotes.  Exactly two are a root of their own. -/
def rootOf (slashes : Nat) : String :=
  if slashes = 0 then "" else if slashes = 2 then "//" else "/"

def ofText (text : String) : Path :=
  let cs := text.toList
  let named (part : List Char) : Bool := part != [] && part != ['.']
  ⟨rootOf (cs.takeWhile (· == '/')).length, ((splitAt '/' cs).filter named).map String.ofList⟩

def text (path : Path) : String :=
  if path.root = "" ∧ path.parts = [] then "." else path.root ++ "/".intercalate path.parts

def child (path : Path) (name : String) : Path :=
  { path with parts := path.parts ++ [name] }

/-- The ending of the last name, from its last dot on.  A dot at either end of the name begins
none. -/
def suffix (path : Path) : String :=
  let name := (path.parts.getLast?.getD "").toList
  let ending := name.reverse.takeWhile (· != '.')
  if ending.isEmpty || name.length ≤ ending.length + 1 then ""
  else String.ofList ('.' :: ending.reverse)

end Path

end LogSelect

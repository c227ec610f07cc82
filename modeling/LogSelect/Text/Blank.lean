import LogSelect.Text.CharClass

/-!
Blank characters, and texts freed of them at both ends.  The separators of ASCII (28 to 31), the
next-line sign and the spaces of Unicode count as blank.
-/

namespace LogSelect

/-- Spaces, line ends and separators. -/
def blanks : CharClass :=
  ⟨[9, 14, 28, 33, 133, 134, 160, 161, 5760, 5761, 8192, 8203, 8232, 8234, 8239, 8240, 8287, 8288,
    12288, 12289]⟩

def isBlank (c : Char) : Bool :=
  blanks.contains c

def dropRightWhile (p : Char → Bool) (cs : List Char) : List Char :=
  (cs.reverse.dropWhile p).reverse

def strip (cs : List Char) : List Char :=
  dropRightWhile isBlank (cs.dropWhile isBlank)

def stripText (s : String) : String :=
  String.ofList (strip s.toList)

def stripRight (s : String) : String :=
  String.ofList (dropRightWhile isBlank s.toList)

def isBlankText (s : String) : Bool :=
  s.toList.all isBlank

end LogSelect

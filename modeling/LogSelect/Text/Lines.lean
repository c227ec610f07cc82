/-!
Lines of a text.  A line feed, a carriage return, and the two in this order each end a line; no
other character does.
-/

namespace LogSelect

def unifyLineEnds : List Char → List Char
  | [] => []
  | '\r' :: '\n' :: rest => '\n' :: unifyLineEnds rest
  | '\r' :: rest => '\n' :: unifyLineEnds rest
  | c :: rest => c :: unifyLineEnds rest

/-- Cut after every line feed.  The last line may lack one; `line` holds, in reverse, what was
read of the current line. -/
def splitLinesFrom (line : List Char) : List Char → List (List Char)
  | [] => if line.isEmpty then [] else [line.reverse]
  | c :: rest =>
    if c = '\n' then ('\n' :: line).reverse :: splitLinesFrom [] rest
    else splitLinesFrom (c :: line) rest

def textLines (cs : List Char) : List String :=
  (splitLinesFrom [] (unifyLineEnds cs)).map String.ofList

/-- Cut at every occurrence of `sep`; there is one piece more than occurrences. -/
def splitAt (sep : Char) : List Char → List (List Char)
  | [] => [[]]
  | c :: rest =>
    if c = sep then [] :: splitAt sep rest
    else
      match splitAt sep rest with
      | [] => [[c]]
      | piece :: pieces => (c :: piece) :: pieces

end LogSelect

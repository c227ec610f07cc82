import LogSelect.Text.Blank

/-!
Statements in a text.  A semicolon ends a statement unless it stands in quotes of any of the three
kinds; a backslash protects the next character in single and double quotes.
-/

namespace LogSelect

/-- The pieces of a text that semicolons end, and what follows the last one.  `piece` holds, in
reverse, what was read of the current piece, and `quote` is the quote that is open. -/
def splitFrom (quote : Option Char) (piece : List Char) :
    List Char → List (List Char) × List Char
  | [] => ([], piece.reverse)
  | [c] =>
    if quote.isNone && c == ';' then ([piece.reverse], []) else ([], (c :: piece).reverse)
  | c :: d :: rest =>
    match quote with
    | some q =>
      if c = '\\' ∧ q ≠ '\x60' then splitFrom quote (d :: c :: piece) rest
      else splitFrom (if c = q then none else quote) (c :: piece) (d :: rest)
    | none =>
      if c = '\'' ∨ c = '"' ∨ c = '\x60' then splitFrom (some c) (c :: piece) (d :: rest)
      else if c = ';' then
        let (pieces, last) := splitFrom none [] (d :: rest)
        (piece.reverse :: pieces, last)
      else splitFrom none (c :: piece) (d :: rest)

/-- The statements of a text, without blanks at their ends and without empty ones, and the text
behind the last semicolon. -/
def splitStatements (text : String) : List String × String :=
  let (pieces, last) := splitFrom none [] text.toList
  (((pieces.map strip).filter fun piece => !piece.isEmpty).map String.ofList, String.ofList last)

end LogSelect

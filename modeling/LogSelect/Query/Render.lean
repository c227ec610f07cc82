import LogSelect.Query.Basic
import LogSelect.Query.Token

/-!
The text of a query.

A name is written in back quotes unless it is a word that is not reserved.  Text constants stand
in single quotes.  A predicate is put in brackets where its operator binds less tightly than the
one around it, and on the right of an operator of its own kind.
-/

namespace LogSelect

def escapeTextChar (c : Char) : List Char :=
  match c with
  | '\\' => ['\\', '\\']
  | '\'' => ['\'', '\'']
  | '\n' => ['\\', 'n']
  | '\t' => ['\\', 't']
  | '\r' => ['\\', 'r']
  | c => [c]

def quoteText (content : List Char) : List Char :=
  '\'' :: (content.flatMap escapeTextChar ++ ['\''])

/-- A name that can stand without quotes, reserved words apart. -/
def isPlainName : List Char → Bool
  | [] => false
  | c :: cs => Token.startsWord c && (c :: cs).all Token.continuesWord

def renderName (name : String) : String :=
  let cs := name.toList
  if (Keyword.ofWord? cs).isSome || !isPlainName cs then
    String.ofList (Token.backQuote :: (cs ++ [Token.backQuote]))
  else
    name

namespace Term

def ofText (s : String) : Term :=
  .literal (.text s) (String.ofList (quoteText s.toList))

def ofNumber (n : Number) : Term :=
  .literal (.number n) n.text

def bracket (needed : Bool) (s : String) : String :=
  if needed then "(" ++ s ++ ")" else s

def isOr : Term → Bool
  | .or _ _ => true
  | _ => false

def isJunction : Term → Bool
  | .or _ _ | .and _ _ => true
  | _ => false

def render : Term → String
  | .column name => renderName name
  | .literal _ spelling => spelling
  | .wildcard => "*"
  | .compare left op right => left.render ++ " " ++ op.symbol ++ " " ++ right.render
  | .and left right =>
    bracket left.isOr left.render ++ " AND " ++ bracket right.isJunction right.render
  | .or left right => left.render ++ " OR " ++ bracket right.isOr right.render
  | .not operand => "NOT " ++ bracket operand.isJunction operand.render

end Term

namespace SelectItem

/-- The name of the output column: the label, the column's own name, or the text of the
constant. -/
def outputName (item : SelectItem) : String :=
  match item.label, item.term with
  | some label, _ => label
  | none, .column name => name
  | none, term => term.render

def render (item : SelectItem) : String :=
  match item.label with
  | none => item.term.render
  | some label => item.term.render ++ " AS " ++ renderName label

end SelectItem

def Direction.spelling : Direction → String
  | .ascending => "ASC"
  | .descending => "DESC"

def OrderItem.render (item : OrderItem) : String :=
  item.term.render ++ " " ++ item.direction.spelling

def Query.render (query : Query) : String :=
  let list (items : List String) : String := ", ".intercalate items
  " ".intercalate <|
    ["SELECT " ++ list (query.select.map SelectItem.render)]
    ++ (query.filter.map fun p => "WHERE " ++ p.render).toList
    ++ (if query.order.isEmpty then []
        else ["ORDER BY " ++ list (query.order.map OrderItem.render)])
    ++ (query.limit.map fun n => "LIMIT " ++ toString n).toList
    ++ (query.offset.map fun n => "OFFSET " ++ toString n).toList

end LogSelect

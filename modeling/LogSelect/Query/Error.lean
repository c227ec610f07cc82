import LogSelect.Query.Grammar
import LogSelect.Text.Quoted

/-!
Faults of query texts and of queries, and how they are reported: the kind, the place if there is
one, and the reason.
-/

namespace LogSelect

def Token.Fault.reason : Token.Fault → String
  | .unterminatedText => "Unterminated string literal"
  | .unterminatedName => "Unterminated quoted identifier"
  | .emptyName => "Empty quoted identifier"
  | .unexpected c => "Unexpected character: " ++ quoted (String.singleton c)
  | .numberTooLong digits =>
    "Exceeds the limit (" ++ toString maxWholeDigits ++
      " digits) for integer string conversion: value has " ++ toString digits ++
      " digits; use sys.set_int_max_str_digits() to increase the limit"

namespace Query

def Role.describe : Role → String
  | .selectItem => "select item"
  | .comparisonOperand => "comparison operand"
  | .orderKey => "ORDER BY key"

def Complaint.reason : Complaint → String
  | .noSelect => "Expected SELECT"
  | .noSourceName => "Expected source name after FROM"
  | .noOrderKeyword => "Expected BY after ORDER"
  | .notAtEnd => "Unexpected token after end of query"
  | .wildcardMixed => "Wildcard '*' cannot be combined with other select items"
  | .wildcardLabelled => "Wildcard '*' cannot be aliased"
  | .noLabel => "Expected alias after AS"
  | .unclosedGroup => "Expected ')' to close group"
  | .noOperator => "Expected comparison operator"
  | .badCount clause => clause.keyword.spelling ++ " must be a non-negative integer"
  | .wildcardOperand role => "Wildcard '*' is not allowed as " ++ role.describe
  | .noOperand role => "Expected " ++ role.describe

/-- What could have stood in the place of the token, if that can be said. -/
def Complaint.expected? : Complaint → Option String
  | .noSelect => some "SELECT"
  | .noSourceName | .noLabel => some "identifier"
  | .noOrderKeyword => some "BY"
  | .notAtEnd => some "end of input"
  | .unclosedGroup => some "')'"
  | .noOperator => some "one of = != <> < > <= >="
  | .badCount _ => some "non-negative integer"
  | .noOperand _ => some "column name or literal"
  | .wildcardMixed | .wildcardLabelled | .wildcardOperand _ => none

end Query

def Token.describe (t : Token) : String :=
  if t.body = .stop then "end of input" else quoted t.lexeme

inductive QueryError where
  | text (fault : Token.Fault) (pos : Position)
  | grammar (complaint : Query.Complaint) (found : Token)
  deriving DecidableEq

def located (kind reason : String) (pos : Position) : String :=
  kind ++ " at line " ++ toString pos.line ++ ", col " ++ toString pos.column ++ ": " ++ reason

namespace QueryError

def pos : QueryError → Position
  | .text _ pos => pos
  | .grammar _ found => found.pos

def reason : QueryError → String
  | .text fault _ => fault.reason
  | .grammar complaint _ => complaint.reason

def message : QueryError → String
  | .text (.numberTooLong digits) _ => (Token.Fault.numberTooLong digits).reason
  | .text fault pos => located "LexError" fault.reason pos
  | .grammar complaint found => located "ParseError" complaint.reason found.pos

end QueryError

namespace Query

/-- The failure as an error: it is about the first remaining token, or about `last` where nothing
remains. -/
def Failure.toError (last : Token) (failure : Failure) : QueryError :=
  .grammar failure.complaint (failure.rest.headD last)

/-- The query that a text spells.  A fault of the text counts before any fault of grammar. -/
def ofText (text : String) : Except QueryError Query :=
  let scan := Token.scan text
  match scan.fault with
  | some (fault, pos) => .error (.text fault pos)
  | none => (ofTokens scan.tokens).mapError
      (Failure.toError (scan.tokens.getLastD ⟨.stop, "", .start⟩))

end Query

end LogSelect

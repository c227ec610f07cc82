import LogSelect.Collation
import LogSelect.Query.Keyword
import LogSelect.Query.Position
import LogSelect.Text.Blank
import LogSelect.Text.Letters

/-!
Tokens of a query text.

Names are words or stand in back quotes.  Text literals stand in single or double quotes; inside,
the quote is written twice or after a backslash.  Numbers are decimal, with an optional minus sign
and an optional fraction.  Blanks and comments, which run from two hyphens to the end of the line,
separate tokens.

At every place of the text, `step` says what stands there and how many characters it takes beyond
the first.  The lexeme of a token is therefore a piece of the text by construction.
-/

namespace LogSelect

namespace Token

inductive Body where
  | name (name : String)
  | number (n : Number)
  | text (content : String)
  | lparen | rparen | comma | star | semicolon
  | op (op : CompareOp)
  | keyword (keyword : Keyword)
  /-- The end of the query text. -/
  | stop
  deriving DecidableEq

inductive Fault where
  | unterminatedText
  | unterminatedName
  | emptyName
  | unexpected (c : Char)
  /-- A whole number of so many digits. -/
  | numberTooLong (digits : Nat)
  deriving DecidableEq

end Token

structure Token where
  body : Token.Body
  lexeme : String
  pos : Position
  deriving DecidableEq

namespace Token

/-- The escapes in a text literal: what stands for the character after a backslash.  Unknown
escapes stand for themselves. -/
def unescape (c : Char) : List Char :=
  match c with
  | 'n' => ['\n']
  | 't' => ['\t']
  | 'r' => ['\r']
  | '\\' => ['\\']
  | '\'' => ['\'']
  | '"' => ['"']
  | c => ['\\', c]

/-- The content of a literal behind its opening quote, with the number of characters up to and
including the closing quote. -/
def scanText (quote : Char) : List Char → Option (List Char × Nat)
  | [] => none
  | [c] => if c = quote then some ([], 1) else none
  | c :: d :: rest =>
    if c = quote then
      if d = quote then (scanText quote rest).map fun (content, n) => (quote :: content, n + 2)
      else some ([], 1)
    else if c = '\\' then
      (scanText quote rest).map fun (content, n) => (unescape d ++ content, n + 2)
    else
      (scanText quote (d :: rest)).map fun (content, n) => (c :: content, n + 1)

def fractionDigits : List Char → List Char
  | '.' :: rest => asciiDigits rest
  | _ => []

/-- What the scan of a text finds at a place.  The number counts the characters beyond the
first. -/
inductive Step where
  | skip (extra : Nat)
  | token (body : Body) (extra : Nat)
  | fault (fault : Fault)

/-- A number of the given sign whose digits stand at the front of `cs`; `before` counts the
characters already taken beyond the first. -/
def numberStep (negative : Bool) (before : Nat) (cs : List Char) : Step :=
  let whole := asciiDigits cs
  let fraction := fractionDigits (cs.drop whole.length)
  if fraction.isEmpty then
    if whole.length ≤ maxWholeDigits then
      .token (.number (.int (Numeral.wholeValue ⟨negative, digitValues whole, none, none⟩)))
        (before + whole.length - 1)
    else
      .fault (.numberTooLong whole.length)
  else
    .token
      (.number (.real
        (Numeral.realValue ⟨negative, digitValues whole, some (digitValues fraction), none⟩)))
      (before + whole.length + fraction.length)

def backQuote : Char := '\x60'

def quotedNameStep (cs : List Char) : Step :=
  let name := cs.takeWhile (· != backQuote)
  if name.length = cs.length then .fault .unterminatedName
  else if name.isEmpty then .fault .emptyName
  else .token (.name (String.ofList name)) (name.length + 1)

def startsWord (c : Char) : Bool :=
  isLetter c || c == '_'

def continuesWord (c : Char) : Bool :=
  isWordSign c || c == '_' || c == '.'

def wordBody (word : List Char) : Body :=
  match Keyword.ofWord? word with
  | some keyword => .keyword keyword
  | none => .name (String.ofList word)

def pairOp? : Char → Char → Option CompareOp
  | '<', '=' => some .le
  | '>', '=' => some .ge
  | '!', '=' => some .ne
  | '<', '>' => some .ne
  | _, _ => none

def signBody? : Char → Option Body
  | '=' => some (.op .eq)
  | '<' => some (.op .lt)
  | '>' => some (.op .gt)
  | '(' => some .lparen
  | ')' => some .rparen
  | ',' => some .comma
  | '*' => some .star
  | ';' => some .semicolon
  | _ => none

/-- What stands at a place whose first character is `c`, followed by `cs`. -/
def step (c : Char) (cs : List Char) : Step :=
  if isBlank c then
    .skip 0
  else if c = '-' ∧ cs.head? = some '-' then
    .skip (cs.takeWhile (· != '\n')).length
  else
    match cs.head?.bind (pairOp? c) with
    | some op => .token (.op op) 1
    | none =>
      match signBody? c with
      | some body => .token body 0
      | none =>
        if c = '\'' ∨ c = '"' then
          match scanText c cs with
          | some (content, n) => .token (.text (String.ofList content)) n
          | none => .fault .unterminatedText
        else if isAsciiDigit c then
          numberStep false 0 (c :: cs)
        else if c = '-' ∧ cs.head?.any isAsciiDigit then
          numberStep true 1 cs
        else if c = backQuote then
          quotedNameStep cs
        else if startsWord c then
          let more := cs.takeWhile continuesWord
          .token (wordBody (c :: more)) more.length
        else
          .fault (.unexpected c)

structure Scan where
  tokens : List Token
  fault : Option (Fault × Position)
  deriving DecidableEq

def scanFrom (pos : Position) : List Char → Scan
  | [] => ⟨[⟨.stop, "", pos⟩], none⟩
  | c :: cs =>
    match step c cs with
    | .skip extra => scanFrom (pos.after (c :: cs.take extra)) (cs.drop extra)
    | .token body extra =>
      let lexeme := c :: cs.take extra
      let scan := scanFrom (pos.after lexeme) (cs.drop extra)
      ⟨⟨body, String.ofList lexeme, pos⟩ :: scan.tokens, scan.fault⟩
    | .fault fault => ⟨[], some (fault, pos)⟩
  termination_by cs => cs.length
  decreasing_by all_goals simp only [List.length_drop, List.length_cons]; omega

def scan (text : String) : Scan :=
  scanFrom .start text.toList

end Token

end LogSelect

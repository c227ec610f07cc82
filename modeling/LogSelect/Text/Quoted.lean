import LogSelect.Text.Printable

/-!
Texts shown in quotes, as messages cite them.

Single quotes enclose the text unless it holds a single quote and no double quote.  The enclosing
quote and the backslash are escaped, line feed, carriage return and tab have short escapes, and
every other character that is not printable is written by its code in hexadecimal digits: two,
four or eight of them, as few as hold it.
-/

namespace LogSelect.Quoted

def hex (width code : Nat) : List Char :=
  let digits := Nat.toDigits 16 code
  List.replicate (width - digits.length) '0' ++ digits

def escapeCode (c : Char) : List Char :=
  if c.toNat < 0x100 then '\\' :: 'x' :: hex 2 c.toNat
  else if c.toNat < 0x10000 then '\\' :: 'u' :: hex 4 c.toNat
  else '\\' :: 'U' :: hex 8 c.toNat

def escape (quote c : Char) : List Char :=
  if c = quote ∨ c = '\\' then ['\\', c]
  else if c = '\n' then ['\\', 'n']
  else if c = '\r' then ['\\', 'r']
  else if c = '\t' then ['\\', 't']
  else if isPrintable c then [c]
  else escapeCode c

/-- Double quotes are used for a text with single quotes and no double ones. -/
def quoteFor (cs : List Char) : Char :=
  if '\'' ∈ cs ∧ '"' ∉ cs then '"' else '\''

def encode (cs : List Char) : List Char :=
  let quote := quoteFor cs
  quote :: (cs.flatMap (escape quote) ++ [quote])

end LogSelect.Quoted

namespace LogSelect

def quoted (s : String) : String :=
  String.ofList (Quoted.encode s.toList)

def quotedList (names : List String) : String :=
  "[" ++ ", ".intercalate (names.map quoted) ++ "]"

end LogSelect

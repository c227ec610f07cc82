import LogSelect.Datum
import LogSelect.Number.Numeral

/-!
Data from JSON texts.

The reader accepts JSON as RFC 8259 defines it and the three names `NaN`, `Infinity` and
`-Infinity`.  A name given twice in an object keeps its first place and its last value.  Numbers
with a fraction or an exponent are floating-point numbers, all others are whole.
-/

namespace LogSelect.Json

inductive ReadError where
  | malformed
  /-- A whole number of more digits than are read. -/
  | numeralTooLong (digits : Nat)
  deriving DecidableEq, Repr

abbrev Reading (α : Type) := Except ReadError (α × List Char)

def isSpace (c : Char) : Bool :=
  c == ' ' || c == '\n' || c == '\t' || c == '\r'

def skipSpace (cs : List Char) : List Char :=
  cs.dropWhile isSpace

def takeHex4? : List Char → Option (Nat × List Char)
  | a :: b :: c :: d :: rest => do
    let a ← hexDigit? a
    let b ← hexDigit? b
    let c ← hexDigit? c
    let d ← hexDigit? d
    return (((a * 16 + b) * 16 + c) * 16 + d, rest)
  | _ => none

def takeLowSurrogate? : List Char → Option (Nat × List Char)
  | '\\' :: 'u' :: rest => do
    let (code, rest) ← takeHex4? rest
    if 0xDC00 ≤ code ∧ code < 0xE000 then return (code, rest) else none
  | _ => none

/-- The character of a numeric escape behind `\u`.  Two halves make one character; a lone half
becomes U+FFFD. -/
def takeUnicodeEscape? (cs : List Char) : Option (Char × List Char) := do
  let (code, rest) ← takeHex4? cs
  if 0xD800 ≤ code ∧ code < 0xDC00 then
    match takeLowSurrogate? rest with
    | some (low, rest) =>
      return (Char.ofNat (0x10000 + (code - 0xD800) * 0x400 + (low - 0xDC00)), rest)
    | none => return ('\uFFFD', rest)
  else if 0xDC00 ≤ code ∧ code < 0xE000 then
    return ('\uFFFD', rest)
  else
    return (Char.ofNat code, rest)

def shortEscape? : Char → Option Char
  | '"' => some '"'
  | '\\' => some '\\'
  | '/' => some '/'
  | 'b' => some '\x08'
  | 'f' => some '\x0c'
  | 'n' => some '\n'
  | 'r' => some '\r'
  | 't' => some '\t'
  | _ => none

/-- The content of a text behind its opening quote.  Each character costs one unit of `fuel`. -/
def textContent (fuel : Nat) (content : List Char) (cs : List Char) : Reading String :=
  match fuel, cs with
  | 0, _ | _, [] => .error .malformed
  | fuel + 1, c :: rest =>
    if c = '"' then
      .ok (String.ofList content.reverse, rest)
    else if c = '\\' then
      match rest with
      | [] => .error .malformed
      | 'u' :: rest =>
        match takeUnicodeEscape? rest with
        | some (c, rest) => textContent fuel (c :: content) rest
        | none => .error .malformed
      | e :: rest =>
        match shortEscape? e with
        | some c => textContent fuel (c :: content) rest
        | none => .error .malformed
    else if c.toNat < 32 then
      .error .malformed
    else
      textContent fuel (c :: content) rest

def takeFraction (cs : List Char) : Option (List Nat) × List Char :=
  match cs with
  | '.' :: rest =>
    let ds := asciiDigits rest
    if ds.isEmpty then (none, cs) else (some (digitValues ds), rest.drop ds.length)
  | _ => (none, cs)

def takeExponent (cs : List Char) : Option (Bool × List Nat) × List Char :=
  match cs with
  | e :: rest =>
    if e = 'e' ∨ e = 'E' then
      let (negative, afterSign) := Numeral.takeSign rest
      let ds := asciiDigits afterSign
      if ds.isEmpty then (none, cs)
      else (some (negative, digitValues ds), afterSign.drop ds.length)
    else
      (none, cs)
  | [] => (none, cs)

/-- A number of the given sign.  A leading zero stands alone. -/
def number (negative : Bool) (cs : List Char) : Reading Datum :=
  let whole := if cs.head? = some '0' then ['0'] else asciiDigits cs
  if whole.isEmpty then
    .error .malformed
  else
    let (fraction, afterFraction) := takeFraction (cs.drop whole.length)
    let (exponent, rest) := takeExponent afterFraction
    let numeral : Numeral := ⟨negative, digitValues whole, fraction, exponent⟩
    if fraction.isSome || exponent.isSome then
      .ok (.number (.real numeral.realValue), rest)
    else if whole.length ≤ maxWholeDigits then
      .ok (.number (.int numeral.wholeValue), rest)
    else
      .error (.numeralTooLong whole.length)

def names : List (String × Datum) :=
  [("null", .null), ("true", .bool true), ("false", .bool false), ("NaN", .number (.real .nan)),
    ("Infinity", .number (.real (.infinite false))),
    ("-Infinity", .number (.real (.infinite true)))]

def named? (cs : List Char) : Option (Datum × List Char) :=
  (names.find? fun entry => entry.1.toList.isPrefixOf cs).map fun (name, datum) =>
    (datum, cs.drop name.length)

mutual

/-- A datum at the front.  Each datum and each member costs one unit of `fuel`. -/
def datum (fuel : Nat) (cs : List Char) : Reading Datum :=
  match fuel with
  | 0 => .error .malformed
  | fuel + 1 =>
    match cs with
    | '"' :: rest => (textContent (fuel + 1) [] rest).map fun (s, rest) => (.text s, rest)
    | '[' :: rest =>
      match skipSpace rest with
      | ']' :: rest => .ok (.list [], rest)
      | rest => (members fuel [] rest).map fun (items, rest) => (.list items, rest)
    | '\x7b' :: rest =>
      match skipSpace rest with
      | '\x7d' :: rest => .ok (.map [], rest)
      | rest => (entries fuel [] rest).map fun (pairs, rest) => (Datum.mapOf pairs, rest)
    | cs =>
      match named? cs with
      | some result => .ok result
      | none =>
        match cs with
        | '-' :: rest => number true rest
        | cs => number false cs

def members (fuel : Nat) (before : List Datum) (cs : List Char) : Reading (List Datum) :=
  match fuel with
  | 0 => .error .malformed
  | fuel + 1 =>
    match datum fuel (skipSpace cs) with
    | .error e => .error e
    | .ok (item, rest) =>
      match skipSpace rest with
      | ',' :: rest => members fuel (item :: before) rest
      | ']' :: rest => .ok ((item :: before).reverse, rest)
      | _ => .error .malformed

def entries (fuel : Nat) (before : List (Datum × Datum)) (cs : List Char) :
    Reading (List (Datum × Datum)) :=
  match fuel with
  | 0 => .error .malformed
  | fuel + 1 =>
    match skipSpace cs with
    | '"' :: rest =>
      match textContent (fuel + 1) [] rest with
      | .error e => .error e
      | .ok (name, rest) =>
        match skipSpace rest with
        | ':' :: rest =>
          match datum fuel (skipSpace rest) with
          | .error e => .error e
          | .ok (value, rest) =>
            match skipSpace rest with
            | ',' :: rest => entries fuel ((.text name, value) :: before) rest
            | '\x7d' :: rest => .ok (((.text name, value) :: before).reverse, rest)
            | _ => .error .malformed
        | _ => .error .malformed
    | _ => .error .malformed

end

def read (s : String) : Except ReadError Datum :=
  let cs := s.toList
  match datum (2 * cs.length + 2) (skipSpace cs) with
  | .error e => .error e
  | .ok (d, rest) => if (skipSpace rest).isEmpty then .ok d else .error .malformed

end LogSelect.Json

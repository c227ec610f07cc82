/-!
Places in a YAML text, and the characters that matter for its layout.

The end of the text reads as the character of code zero, which no YAML text may hold.
-/

namespace LogSelect.Yaml

inductive Error where
  | malformed
  /-- A scalar of a known type that has no value of it. -/
  | badScalar
  | unknownTruth (text : String)
  | emptyNumber
  | noTimestamp
  deriving DecidableEq, Repr

def ending : Char := '\x00'

def isBreak (c : Char) : Bool :=
  c == '\n' || c == '\r' || c == '\x85' || c == '\u2028' || c == '\u2029'

def isBreakOrEnd (c : Char) : Bool :=
  c == ending || isBreak c

def isGap (c : Char) : Bool :=
  c == ' ' || c == '\t' || isBreakOrEnd c

/-- A gap without tabs. -/
def isPlainGap (c : Char) : Bool :=
  c == ' ' || isBreakOrEnd c

def isAllowed (c : Char) : Bool :=
  let n := c.toNat
  n == 9 || n == 10 || n == 13 || (32 ≤ n && n ≤ 126) || n == 0x85 ||
    (0xA0 ≤ n && n ≤ 0xD7FF) || (0xE000 ≤ n && n ≤ 0xFFFD) || 0x10000 ≤ n

structure Cursor where
  rest : List Char
  index : Nat
  line : Nat
  column : Nat

namespace Cursor

def start (cs : List Char) : Cursor :=
  ⟨cs, 0, 0, 0⟩

def ahead (cursor : Cursor) (n : Nat) : Char :=
  cursor.rest.getD n ending

def char (cursor : Cursor) : Char :=
  cursor.ahead 0

/-- The place behind one character.  A byte order mark takes no column. -/
def step (cursor : Cursor) : Cursor :=
  match cursor.rest with
  | [] => cursor
  | c :: rest =>
    if isBreak c && !(c == '\r' && rest.head? == some '\n') then
      ⟨rest, cursor.index + 1, cursor.line + 1, 0⟩
    else
      ⟨rest, cursor.index + 1, cursor.line,
        if c = '\uFEFF' then cursor.column else cursor.column + 1⟩

def forward (cursor : Cursor) : Nat → Cursor
  | 0 => cursor
  | n + 1 => cursor.step.forward n

def run (cursor : Cursor) (p : Char → Bool) : List Char :=
  cursor.rest.takeWhile p

def skip (cursor : Cursor) (p : Char → Bool) : Cursor :=
  cursor.forward (cursor.run p).length

def lineBreak (cursor : Cursor) : Option Char × Cursor :=
  let c := cursor.char
  if c = '\r' ∧ cursor.ahead 1 = '\n' then (some '\n', cursor.forward 2)
  else if c = '\r' ∨ c = '\n' ∨ c = '\x85' then (some '\n', cursor.step)
  else if c = '\u2028' ∨ c = '\u2029' then (some c, cursor.step)
  else (none, cursor)

/-- Pass over spaces, a comment, and the line end behind them.  Nothing else may stand there. -/
def finishLine (cursor : Cursor) : Except Error Cursor :=
  let cursor := cursor.skip (· == ' ')
  let cursor := if cursor.char = '#' then cursor.skip (!isBreakOrEnd ·) else cursor
  if isBreakOrEnd cursor.char then .ok cursor.lineBreak.2 else .error .malformed

/-- Whether a document marker, three equal signs and a gap, stands at the place. -/
def atMarker (cursor : Cursor) (sign : Char) : Bool :=
  cursor.rest.take 3 == [sign, sign, sign] && isGap (cursor.ahead 3)

def atDocumentEdge (cursor : Cursor) : Bool :=
  cursor.atMarker '-' || cursor.atMarker '.'

end Cursor

end LogSelect.Yaml

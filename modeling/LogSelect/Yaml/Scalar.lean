import LogSelect.Text.Digits
import LogSelect.Yaml.Cursor

/-!
The scalars of a YAML text: plain, in quotes, or as blocks.

Line ends inside plain and quoted scalars are folded: a single one becomes a space, and of several
the first is dropped.  A literal block keeps its line ends; a folded one folds those between two
lines of text.  Loops run on fuel, of which the length of the remaining text is enough.
-/

namespace LogSelect.Yaml

open Cursor

abbrev Scanned := Except Error (List Char × Cursor)

/-- Line ends, and the blanks before, between and behind them, in a quoted scalar. -/
def quotedBreaks : (fuel : Nat) → Cursor → Scanned
  | 0, _ => .error .malformed
  | fuel + 1, cursor =>
    if cursor.atDocumentEdge then .error .malformed
    else
      match (cursor.skip fun c => c == ' ' || c == '\t').lineBreak with
      | (none, cursor) => .ok ([], cursor)
      | (some c, cursor) => (quotedBreaks fuel cursor).map fun (cs, cursor) => (c :: cs, cursor)

/-- A line end and the further ones `more`, folded. -/
def foldBreaks (first : Char) (more : List Char) : List Char :=
  if first ≠ '\n' then first :: more else if more.isEmpty then [' '] else more

def quotedSpaces (fuel : Nat) (cursor : Cursor) : Scanned :=
  let blanks := cursor.run fun c => c == ' ' || c == '\t'
  let cursor := cursor.forward blanks.length
  if cursor.char = ending then .error .malformed
  else
    match cursor.lineBreak with
    | (none, cursor) => .ok (blanks, cursor)
    | (some c, cursor) =>
      (quotedBreaks fuel cursor).map fun (more, cursor) => (foldBreaks c more, cursor)

def shortEscape? : Char → Option Char
  | '0' => some '\x00'
  | 'a' => some '\x07'
  | 'b' => some '\x08'
  | 't' | '\t' => some '\t'
  | 'n' => some '\n'
  | 'v' => some '\x0b'
  | 'f' => some '\x0c'
  | 'r' => some '\r'
  | 'e' => some '\x1b'
  | ' ' => some ' '
  | '"' => some '"'
  | '\\' => some '\\'
  | '/' => some '/'
  | 'N' => some '\x85'
  | '_' => some '\xa0'
  | 'L' => some '\u2028'
  | 'P' => some '\u2029'
  | _ => none

def codeEscape? : Char → Option Nat
  | 'x' => some 2
  | 'u' => some 4
  | 'U' => some 8
  | _ => none

def hexNumber? (count : Nat) (cs : List Char) : Option Nat :=
  let digits := cs.take count
  if digits.length < count then none
  else (digits.mapM hexDigit?).map fun values => values.foldl (fun n d => n * 16 + d) 0

def escaped (fuel : Nat) (cursor : Cursor) : Scanned :=
  let c := cursor.char
  match shortEscape? c, codeEscape? c with
  | some d, _ => if cursor.rest.isEmpty then .error .malformed else .ok ([d], cursor.step)
  | none, some count =>
    match hexNumber? count cursor.rest.tail with
    | none => .error .malformed
    | some code =>
      if code < 0x110000 then .ok ([Char.ofNat code], cursor.forward (count + 1))
      else .error .badScalar
  | none, none =>
    match cursor.lineBreak with
    | (none, _) => .error .malformed
    | (some _, cursor) => quotedBreaks fuel cursor

def endsQuotedRun (c : Char) : Bool :=
  c == '\'' || c == '"' || c == '\\' || isGap c

def quotedContent (double : Bool) : (fuel : Nat) → Cursor → Scanned
  | 0, _ => .error .malformed
  | fuel + 1, cursor =>
    let run := cursor.run fun c => !endsQuotedRun c
    let cursor := cursor.forward run.length
    let c := cursor.char
    let more (cs : List Char) (cursor : Cursor) : Scanned :=
      (quotedContent double fuel cursor).map fun (content, cursor) => (run ++ cs ++ content, cursor)
    if double then
      if c = '"' then .ok (run, cursor.step)
      else if c = '\'' then more ['\''] cursor.step
      else if c = '\\' then do
        let (cs, cursor) ← escaped fuel cursor.step
        more cs cursor
      else do
        let (cs, cursor) ← quotedSpaces fuel cursor
        more cs cursor
    else
      if c = '\'' then
        if cursor.ahead 1 = '\'' then more ['\''] (cursor.forward 2) else .ok (run, cursor.step)
      else if c = '"' ∨ c = '\\' then more [c] cursor.step
      else do
        let (cs, cursor) ← quotedSpaces fuel cursor
        more cs cursor

def scanQuoted (cursor : Cursor) : Scanned :=
  quotedContent (cursor.char == '"') (cursor.rest.length + 1) cursor.step

def plainBreaks : (fuel : Nat) → Cursor → Option (List Char) × Cursor
  | 0, cursor => (none, cursor)
  | fuel + 1, cursor =>
    if cursor.atDocumentEdge then (none, cursor)
    else
      match (cursor.skip (· == ' ')).lineBreak with
      | (none, cursor) => (some [], cursor)
      | (some c, cursor) =>
        let (more, cursor) := plainBreaks fuel cursor
        (more.map (c :: ·), cursor)

/-- Spaces or line ends inside a plain scalar, and whether a line end was among them.  No
characters mean that the scalar is over. -/
def plainSpaces (fuel : Nat) (cursor : Cursor) : List Char × Bool × Cursor :=
  let blanks := cursor.run (· == ' ')
  let cursor := cursor.forward blanks.length
  match cursor.lineBreak with
  | (none, cursor) => (blanks, false, cursor)
  | (some c, cursor) =>
    match plainBreaks fuel cursor with
    | (none, cursor) => ([], true, cursor)
    | (some more, cursor) => (foldBreaks c more, true, cursor)

def isFlowSign (c : Char) : Bool :=
  c == ',' || c == '[' || c == ']' || c == '\x7b' || c == '\x7d'

def plainRun (flow : Bool) : List Char → List Char
  | [] => []
  | c :: rest =>
    let next := rest.headD ending
    if isGap c || (c == ':' && (isGap next || (flow && isFlowSign next))) ||
        (flow && (isFlowSign c || c == '?')) then []
    else c :: plainRun flow rest

/-- A plain scalar in lines indented by at least `indent`, behind the spaces `spaces`.  The flag
tells whether the scalar ended at the beginning of a line. -/
def scanPlain (flow : Bool) (indent : Int) :
    (fuel : Nat) → (spaces : List Char) → (atStart : Bool) → Cursor → List Char × Bool × Cursor
  | 0, _, atStart, cursor => ([], atStart, cursor)
  | fuel + 1, spaces, atStart, cursor =>
    if cursor.char = '#' then ([], atStart, cursor)
    else
      let run := plainRun flow cursor.rest
      if run.isEmpty then ([], atStart, cursor)
      else
        let (more, broken, cursor) := plainSpaces fuel (cursor.forward run.length)
        if more.isEmpty || cursor.char == '#' || (!flow && (cursor.column : Int) < indent) then
          (spaces ++ run, broken, cursor)
        else
          let (content, atStart, cursor) := scanPlain flow indent fuel more broken cursor
          (spaces ++ run ++ content, atStart, cursor)

inductive Chomping where
  | strip
  | clip
  | keep

def chomping? : Char → Option Chomping
  | '+' => some .keep
  | '-' => some .strip
  | _ => none

def indentDigit (cursor : Cursor) : Except Error (Option Nat × Cursor) :=
  let n := cursor.char.toNat
  if 49 ≤ n ∧ n ≤ 57 then .ok (some (n - 48), cursor.step)
  else if n = 48 then .error .malformed
  else .ok (none, cursor)

def blockHeader (cursor : Cursor) : Except Error (Chomping × Option Nat × Cursor) := do
  match chomping? cursor.char with
  | some chomping =>
    let (indent, cursor) ← indentDigit cursor.step
    if isPlainGap cursor.char then return (chomping, indent, cursor) else .error .malformed
  | none =>
    let (indent, cursor) ← indentDigit cursor
    let chomping := if indent.isSome then chomping? cursor.char else none
    let cursor := if chomping.isSome then cursor.step else cursor
    if isPlainGap cursor.char then return (chomping.getD .clip, indent, cursor)
    else .error .malformed

def skipIndent (indent : Nat) (cursor : Cursor) : Cursor :=
  cursor.forward (Nat.min (indent - cursor.column) (cursor.run (· == ' ')).length)

/-- Line ends of lines that are empty up to a column. -/
def blockBreaks (indent : Nat) : (fuel : Nat) → Cursor → List Char × Cursor
  | 0, cursor => ([], cursor)
  | fuel + 1, cursor =>
    match (skipIndent indent cursor).lineBreak with
    | (none, cursor) => ([], cursor)
    | (some c, cursor) =>
      let (more, cursor) := blockBreaks indent fuel cursor
      (c :: more, cursor)

/-- Line ends and spaces before the first line of a block, with the greatest column reached. -/
def blockStart : (fuel widest : Nat) → Cursor → List Char × Nat × Cursor
  | 0, widest, cursor => ([], widest, cursor)
  | fuel + 1, widest, cursor =>
    let cursor := cursor.skip (· == ' ')
    let widest := Nat.max widest cursor.column
    match cursor.lineBreak with
    | (none, cursor) => ([], widest, cursor)
    | (some c, cursor) =>
      let (more, widest, cursor) := blockStart fuel widest cursor
      (c :: more, widest, cursor)

/-- The lines of a block that start at a column, behind the line ends `breaks`.  The result ends
with the line end of the last line and the line ends behind it, apart. -/
def blockLines (folded : Bool) (indent : Nat) :
    (fuel : Nat) → (breaks : List Char) → Cursor → List Char × Option Char × List Char × Cursor
  | 0, breaks, cursor => ([], none, breaks, cursor)
  | fuel + 1, breaks, cursor =>
    if cursor.column ≠ indent ∨ cursor.char = ending then ([], none, breaks, cursor)
    else
      let isText (c : Char) : Bool := c != ' ' && c != '\t'
      let startsText := isText cursor.char
      let line := cursor.run fun c => !isBreakOrEnd c
      let (lineEnd, cursor) := (cursor.forward line.length).lineBreak
      let (more, cursor) := blockBreaks indent fuel cursor
      if cursor.column = indent ∧ cursor.char ≠ ending then
        let joint : List Char :=
          if folded && lineEnd == some '\n' && startsText && isText cursor.char then
            (if more.isEmpty then [' '] else [])
          else
            lineEnd.toList
        let (content, last, tail, cursor) := blockLines folded indent fuel more cursor
        (breaks ++ line ++ joint ++ content, last, tail, cursor)
      else
        (breaks ++ line, lineEnd, more, cursor)

def scanBlock (parent : Int) (cursor : Cursor) : Scanned := do
  let folded := cursor.char == '>'
  let (chomping, digit, cursor) ← blockHeader cursor.step
  let cursor ← cursor.finishLine
  let fuel := cursor.rest.length + 1
  let least := if parent < 0 then 1 else parent.toNat + 1
  let (breaks, indent, cursor) :=
    match digit with
    | none =>
      let (breaks, widest, cursor) := blockStart fuel 0 cursor
      (breaks, Nat.max least widest, cursor)
    | some digit =>
      let indent := least + digit - 1
      let (breaks, cursor) := blockBreaks indent fuel cursor
      (breaks, indent, cursor)
  let (content, last, tail, cursor) := blockLines folded indent fuel breaks cursor
  let ending : List Char :=
    match chomping with
    | .strip => []
    | .clip => last.toList
    | .keep => last.toList ++ tail
  return (content ++ ending, cursor)

end LogSelect.Yaml

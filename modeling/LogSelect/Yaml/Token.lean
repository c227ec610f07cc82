import LogSelect.Number.Numeral
import LogSelect.Text.Utf8
import LogSelect.Yaml.Scalar

/-!
The tokens of a YAML text.

Indentation becomes tokens that open and close blocks.  Whether a token begins the key of a pair
shows only at the colon behind it: each open collection therefore keeps one candidate, before which
the key token is put when the colon comes.  A candidate expires at the end of its line and after
1024 characters.
-/

namespace LogSelect.Yaml

inductive Directive where
  | version (major : Nat)
  | tagHandle (handle expansion : List Char)
  | reserved

/-- A token.  The last token of a text is `stop`, or `broken` where the text cannot be read on. -/
inductive Token where
  | directive (directive : Directive)
  | documentStart
  | documentEnd
  | blockSequence
  | blockMapping
  | blockEnd
  | sequenceStart
  | sequenceEnd
  | mappingStart
  | mappingEnd
  | entry
  | comma
  | key
  | value
  | anchor (name : List Char)
  | reference (name : List Char)
  | tag (handle : Option (List Char)) (suffix : List Char)
  | scalar (plain : Bool) (text : List Char)
  | stop
  | broken (error : Error)

/-- A place where a key may begin. -/
structure Candidate where
  /-- The number of tokens before it. -/
  before : Nat
  /-- Nothing but a key may begin there. -/
  required : Bool
  line : Nat
  index : Nat
  column : Nat

structure Scan where
  cursor : Cursor
  /-- The tokens, last to first. -/
  tokens : List Token
  /-- The columns of the open blocks, innermost first. -/
  blocks : List Nat
  /-- The candidates of the open flow collections, innermost first, and of the blocks around. -/
  candidates : List (Option Candidate)
  /-- Whether a key may begin at the cursor. -/
  allowKey : Bool

namespace Scan

def start (cs : List Char) : Scan :=
  let cursor := Cursor.start cs
  ⟨if cursor.char = '\uFEFF' then cursor.step else cursor, [], [], [none], true⟩

def inFlow (scan : Scan) : Bool :=
  1 < scan.candidates.length

def indent (scan : Scan) : Int :=
  match scan.blocks with
  | [] => -1
  | column :: _ => column

def emit (scan : Scan) (token : Token) : Scan :=
  { scan with tokens := token :: scan.tokens }

def take (scan : Scan) (count : Nat) (token : Token) : Scan :=
  { scan.emit token with cursor := scan.cursor.forward count }

def closeBlocks (scan : Scan) (column : Int) : Scan :=
  if scan.inFlow then scan
  else
    let deeper (block : Nat) : Bool := column < block
    { scan with
      blocks := scan.blocks.dropWhile deeper
      tokens := (scan.blocks.takeWhile deeper).map (fun _ => .blockEnd) ++ scan.tokens }

def openBlock (scan : Scan) (column : Nat) (token : Token) : Scan :=
  if scan.indent < column then { scan.emit token with blocks := column :: scan.blocks } else scan

def dropCandidate (scan : Scan) : Except Error Scan :=
  match scan.candidates with
  | some candidate :: rest =>
    if candidate.required then .error .malformed
    else .ok { scan with candidates := none :: rest }
  | _ => .ok scan

/-- Make the cursor a candidate, if a key may begin there. -/
def offerKey (scan : Scan) : Except Error Scan :=
  if !scan.allowKey then .ok scan
  else do
    let scan ← scan.dropCandidate
    let cursor := scan.cursor
    let required := !scan.inFlow && scan.indent == cursor.column
    let candidate : Candidate :=
      ⟨scan.tokens.length, required, cursor.line, cursor.index, cursor.column⟩
    return { scan with candidates := some candidate :: scan.candidates.tail }

def isStale (cursor : Cursor) (candidate : Candidate) : Bool :=
  candidate.line != cursor.line || 1024 < cursor.index - candidate.index

def expire (scan : Scan) : Except Error Scan :=
  let isStale := isStale scan.cursor
  if scan.candidates.any (·.any fun candidate => isStale candidate && candidate.required) then
    .error .malformed
  else
    .ok { scan with candidates := scan.candidates.map (·.filter (!isStale ·)) }

/-- Pass over spaces, comments and line ends.  The flag tells whether there was a line end. -/
def passGap (cursor : Cursor) : (fuel : Nat) → (broken : Bool) → Bool × Cursor
  | 0, broken => (broken, cursor)
  | fuel + 1, broken =>
    let cursor := cursor.skip (· == ' ')
    let cursor := if cursor.char = '#' then cursor.skip (!isBreakOrEnd ·) else cursor
    match cursor.lineBreak with
    | (some _, cursor) => passGap cursor fuel true
    | (none, cursor) => (broken, cursor)

def toToken (scan : Scan) : Scan :=
  let (broken, cursor) := passGap scan.cursor (scan.cursor.rest.length + 1) false
  { scan with cursor, allowKey := scan.allowKey || (broken && !scan.inFlow) }

end Scan

def isWordChar (c : Char) : Bool :=
  c.isAlphanum || c == '-' || c == '_'

def isTagChar (c : Char) : Bool :=
  c.isAlphanum || "-;/?:@&=+$,_.!~*'()[]".toList.contains c

/-- The bytes of a row of escapes, each a percent sign with two digits. -/
def tagEscapes : (fuel : Nat) → Cursor → Except Error (List Nat × Cursor)
  | 0, _ => .error .malformed
  | fuel + 1, cursor =>
    if cursor.char ≠ '%' then .ok ([], cursor)
    else
      match hexNumber? 2 cursor.rest.tail with
      | none => .error .malformed
      | some byte => (tagEscapes fuel (cursor.forward 3)).map fun (more, cursor) =>
          (byte :: more, cursor)

def tagText : (fuel : Nat) → Cursor → Scanned
  | 0, _ => .error .malformed
  | fuel + 1, cursor => do
    let run := cursor.run isTagChar
    let cursor := cursor.forward run.length
    if cursor.char ≠ '%' then return (run, cursor)
    let (bytes, cursor) ← tagEscapes (fuel + 1) cursor
    match Utf8.decode? bytes with
    | none => .error .malformed
    | some cs => (tagText fuel cursor).map fun (more, cursor) => (run ++ cs ++ more, cursor)

def scanTagText (cursor : Cursor) : Scanned := do
  let (text, cursor) ← tagText (cursor.rest.length + 1) cursor
  if text.isEmpty then .error .malformed else return (text, cursor)

def scanTagHandle (cursor : Cursor) : Scanned :=
  if cursor.char ≠ '!' then .error .malformed
  else if cursor.ahead 1 = ' ' then .ok (['!'], cursor.step)
  else
    let name := cursor.step.run isWordChar
    let cursor := cursor.forward (name.length + 1)
    if cursor.char = '!' then .ok ('!' :: name ++ ['!'], cursor.step) else .error .malformed

/-- A tag: in angle brackets, a single mark, or a handle with a text. -/
def scanTag (cursor : Cursor) : Except Error (Token × Cursor) := do
  let next := cursor.ahead 1
  let (handle, text, cursor) ←
    if next = '<' then do
      let (text, cursor) ← scanTagText (cursor.forward 2)
      if cursor.char = '>' then pure (none, text, cursor.step) else .error .malformed
    else if isGap next then
      pure (none, ['!'], cursor.step)
    else do
      let named := (cursor.rest.tail.takeWhile (!isPlainGap ·)).contains '!'
      let (handle, cursor) ← if named then scanTagHandle cursor else pure (['!'], cursor.step)
      let (text, cursor) ← scanTagText cursor
      pure (some handle, text, cursor)
  if isPlainGap cursor.char then return (.tag handle text, cursor) else .error .malformed

def scanName (cursor : Cursor) : Scanned :=
  let name := cursor.run isWordChar
  let cursor := cursor.forward name.length
  let ends := isGap cursor.char || "?:,]\x7d%@`".toList.contains cursor.char
  if name.isEmpty || !ends then .error .malformed else .ok (name, cursor)

def scanVersionNumber (cursor : Cursor) : Except Error (Nat × Cursor) :=
  let digits := cursor.run isAsciiDigit
  if digits.isEmpty then .error .malformed
  else if maxWholeDigits < digits.length then .error .badScalar
  else
    .ok (ofDigits (digitValues digits), cursor.forward digits.length)

def scanVersion (cursor : Cursor) : Except Error (Directive × Cursor) := do
  let (major, cursor) ← scanVersionNumber (cursor.skip (· == ' '))
  if cursor.char ≠ '.' then .error .malformed
  else
    let (_, cursor) ← scanVersionNumber cursor.step
    if isPlainGap cursor.char then return (.version major, cursor) else .error .malformed

def scanTagDirective (cursor : Cursor) : Except Error (Directive × Cursor) := do
  let (handle, cursor) ← scanTagHandle (cursor.skip (· == ' '))
  if cursor.char ≠ ' ' then .error .malformed
  else
    let (expansion, cursor) ← scanTagText (cursor.skip (· == ' '))
    if isPlainGap cursor.char then return (.tagHandle handle expansion, cursor)
    else .error .malformed

def scanDirective (cursor : Cursor) : Except Error (Token × Cursor) := do
  let name := cursor.step.run isWordChar
  let cursor := cursor.forward (name.length + 1)
  if name.isEmpty || !isPlainGap cursor.char then throw .malformed
  let (directive, cursor) ←
    if name = "YAML".toList then scanVersion cursor
    else if name = "TAG".toList then scanTagDirective cursor
    else pure (.reserved, cursor.skip (!isBreakOrEnd ·))
  return (.directive directive, ← cursor.finishLine)

namespace Scan

def startsPlain (scan : Scan) : Bool :=
  let c := scan.cursor.char
  !(isGap c || "-?:,[]\x7b\x7d#&*!|>'\"%@`".toList.contains c) ||
    (!isGap (scan.cursor.ahead 1) && (c == '-' || (!scan.inFlow && (c == '?' || c == ':'))))

def separator (scan : Scan) (token : Token) (cursor : Cursor) : Except Error Scan := do
  let scan ← (scan.closeBlocks (-1)).dropCandidate
  return { scan.emit token with cursor, allowKey := false }

def openFlow (scan : Scan) (token : Token) : Except Error Scan := do
  let scan ← scan.offerKey
  return { scan.take 1 token with candidates := none :: scan.candidates, allowKey := true }

def closeFlow (scan : Scan) (token : Token) : Except Error Scan := do
  if !scan.inFlow then throw .malformed
  let scan ← scan.dropCandidate
  return { scan.take 1 token with candidates := scan.candidates.tail, allowKey := false }

/-- An entry of a block sequence.  In a flow collection the token is for the grammar to refuse. -/
def blockEntry (scan : Scan) : Except Error Scan := do
  if !scan.inFlow && !scan.allowKey then throw .malformed
  let scan := if scan.inFlow then scan else scan.openBlock scan.cursor.column .blockSequence
  let scan ← { scan with allowKey := true }.dropCandidate
  return scan.take 1 .entry

def standalone (scan : Scan) (token : Token) : Except Error Scan := do
  if !scan.inFlow && !scan.allowKey then throw .malformed
  let scan := if scan.inFlow then scan else scan.openBlock scan.cursor.column .blockMapping
  let scan ← { scan with allowKey := !scan.inFlow }.dropCandidate
  return scan.take 1 token

/-- A value.  If there is a candidate, it is now known to be the key. -/
def pairValue (scan : Scan) : Except Error Scan :=
  match scan.candidates with
  | some candidate :: rest =>
    let since := scan.tokens.length - candidate.before
    let earlier := { scan with tokens := scan.tokens.drop since, candidates := none :: rest }
    let opened :=
      if scan.inFlow then earlier else earlier.openBlock candidate.column .blockMapping
    let keyed := opened.emit .key
    let scan := { keyed with tokens := scan.tokens.take since ++ keyed.tokens, allowKey := false }
    .ok (scan.take 1 .value)
  | _ => scan.standalone .value

def content (scan : Scan) (read : Cursor → Except Error (Token × Cursor)) :
    Except Error Scan := do
  let scan ← scan.offerKey
  let (token, cursor) ← read scan.cursor
  return { scan.emit token with cursor, allowKey := false }

def blockScalar (scan : Scan) : Except Error Scan := do
  let scan ← { scan with allowKey := true }.dropCandidate
  let (text, cursor) ← scanBlock scan.indent scan.cursor
  return { scan.emit (.scalar false text) with cursor }

/-- A plain scalar.  Behind one that ends at the beginning of a line a key may begin. -/
def plainScalar (scan : Scan) : Except Error Scan := do
  let scan ← scan.offerKey
  let (text, atStart, cursor) :=
    scanPlain scan.inFlow (scan.indent + 1) (scan.cursor.rest.length + 1) [] false scan.cursor
  return { scan.emit (.scalar true text) with cursor, allowKey := atStart }

def token (scan : Scan) : Except Error Scan := do
  let cursor := scan.cursor
  let c := cursor.char
  let next := cursor.ahead 1
  let atEdge (sign : Char) : Bool := cursor.column == 0 && cursor.atMarker sign
  if c = '%' ∧ cursor.column = 0 then do
    let (token, cursor) ← scanDirective cursor
    scan.separator token cursor
  else if atEdge '-' then scan.separator .documentStart (cursor.forward 3)
  else if atEdge '.' then scan.separator .documentEnd (cursor.forward 3)
  else if c = '[' then scan.openFlow .sequenceStart
  else if c = '\x7b' then scan.openFlow .mappingStart
  else if c = ']' then scan.closeFlow .sequenceEnd
  else if c = '\x7d' then scan.closeFlow .mappingEnd
  else if c = ',' then do
    let scan ← { scan with allowKey := true }.dropCandidate
    return scan.take 1 .comma
  else if c = '-' ∧ isGap next then scan.blockEntry
  else if c = '?' ∧ (scan.inFlow ∨ isGap next) then scan.standalone .key
  else if c = ':' ∧ (scan.inFlow ∨ isGap next) then scan.pairValue
  else if c = '*' then
    scan.content fun cursor => (scanName cursor.step).map fun (name, cursor) =>
      (.reference name, cursor)
  else if c = '&' then
    scan.content fun cursor => (scanName cursor.step).map fun (name, cursor) =>
      (.anchor name, cursor)
  else if c = '!' then scan.content scanTag
  else if (c = '|' ∨ c = '>') ∧ !scan.inFlow then scan.blockScalar
  else if c = '\'' ∨ c = '"' then
    scan.content fun cursor => (scanQuoted cursor).map fun (text, cursor) =>
      (.scalar false text, cursor)
  else if scan.startsPlain then scan.plainScalar
  else throw .malformed

/-- The remaining tokens, first to last.  Every token but the last takes a character, so the length
of the remaining text is fuel enough. -/
def run : (fuel : Nat) → Scan → List Token
  | 0, scan => (scan.emit (.broken .malformed)).tokens.reverse
  | fuel + 1, scan =>
    let next : Except Error (Scan × Bool) := do
      let scan ← scan.toToken.expire
      let scan := scan.closeBlocks scan.cursor.column
      if scan.cursor.char = ending then
        return (← scan.separator .stop scan.cursor, true)
      else
        return (← scan.token, false)
    match next with
    | .error e => (scan.emit (.broken e)).tokens.reverse
    | .ok (scan, true) => scan.tokens.reverse
    | .ok (scan, false) => run fuel scan

end Scan

def tokens (cs : List Char) : List Token :=
  if cs.all isAllowed then (Scan.start cs).run (cs.length + 1) else [.broken .malformed]

end LogSelect.Yaml

import LogSelect.Number.Numeral
import LogSelect.Pattern.Basic
import LogSelect.Text.Identifiers
import LogSelect.Text.Lines

/-!
Patterns from their text.

The notation has characters and escapes, sets in square brackets, the quantifiers `*`, `+`, `?` and
`{m,n}` with lazy and possessive forms, capturing, named, plain and atomic groups, references to
groups by number or name, lookahead and lookbehind, conditionals on groups, comments, and flags for
the whole pattern or for a group.

The text is read from left to right in signs: a character, or a backslash with the character that
it escapes.
-/

namespace LogSelect.Pattern

inductive ReadError where
  | malformed
  | repetitionTooLarge
  /-- A repetition count of so many digits. -/
  | countTooLong (digits : Nat)
  | flagConflict
  deriving DecidableEq, Repr

/-- A character, an escaped one, or the backslash that ends a text. -/
inductive Sign where
  | plain (c : Char)
  | escaped (c : Char)
  | broken
  deriving DecidableEq, Repr

def signs : List Char → List Sign
  | [] => []
  | ['\\'] => [.broken]
  | '\\' :: c :: rest => .escaped c :: signs rest
  | c :: rest => .plain c :: signs rest

structure Flags where
  ignoreCase : Bool := false
  multiLine : Bool := false
  dotAll : Bool := false
  /-- Blanks and comments in the pattern do not count. -/
  verbose : Bool := false
  /-- Classes are restricted to ASCII. -/
  ascii : Bool := false
  deriving Repr

def Flags.folding (flags : Flags) : Folding :=
  if flags.ignoreCase then (if flags.ascii then .ascii else .unicode) else .none

/-- The least and the greatest number of characters that a pattern covers. -/
structure Width where
  low : Nat
  high : Nat
  deriving Repr

/-- The number that stands for "without bound". -/
def unboundedWidth : Nat := 0x10000000000000000

def repetitionBound : Nat := 4294967295

structure Reader where
  rest : List Sign
  /-- Flags of the whole pattern. -/
  flags : Flags := {}
  /-- The flag `u` was given for the whole pattern. -/
  unicodeAsked : Bool := false
  /-- The flag `t` was given for the whole pattern: it may not have loops. -/
  plainMode : Bool := false
  names : List (String × Nat) := []
  /-- The widths of the groups from the first on, none for groups that are still open. -/
  widths : List (Option Width) := []
  /-- Inside a lookbehind: the number that the next group had when it began. -/
  lookbehindFrom : Option Nat := none
  /-- Groups that conditionals ask for. -/
  asked : List Nat := []
  hasLoop : Bool := false
  /-- A lookbehind without fixed width was read. -/
  badLookbehind : Bool := false

abbrev Read (α : Type) := StateT Reader (Except ReadError) α

def refuse {α : Type} : Read α :=
  throw .malformed

def peekSign : Read (Option Sign) := do
  return (← get).rest.head?

def takeSign : Read (Option Sign) := do
  match (← get).rest with
  | [] => return none
  | sign :: rest =>
    modify fun st => { st with rest }
    return some sign

def accept (c : Char) : Read Bool := do
  if (← peekSign) = some (.plain c) then
    modify fun st => { st with rest := st.rest.tail }
    return true
  return false

def demand (c : Char) : Read Unit := do
  unless ← accept c do refuse

def takeWhileAtMost (p : Char → Bool) : (count : Nat) → Read (List Char)
  | 0 => return []
  | count + 1 => do
    match ← peekSign with
    | some (.plain c) =>
      if p c then
        modify fun st => { st with rest := st.rest.tail }
        return c :: (← takeWhileAtMost p count)
      else
        return []
    | _ => return []

def takeAll (p : Char → Bool) : Read (List Char) := do
  takeWhileAtMost p (← get).rest.length

def Sign.chars : Sign → List Char
  | .plain c => [c]
  | .escaped c => ['\\', c]
  | .broken => ['\\']

def takeName (close : Char) : Read (List Char) := do
  let rest := (← get).rest
  let name := rest.takeWhile (· != .plain close)
  if name.isEmpty || name.length = rest.length then refuse
  modify fun st => { st with rest := st.rest.drop (name.length + 1) }
  return name.flatMap Sign.chars

def hexValue (c : Char) : Nat :=
  if c.isDigit then c.toNat - 48 else if c.isLower then c.toNat - 87 else c.toNat - 55

def isHexDigit (c : Char) : Bool :=
  c.isDigit || ('a'.toNat ≤ c.toNat && c.toNat ≤ 'f'.toNat) ||
    ('A'.toNat ≤ c.toNat && c.toNat ≤ 'F'.toNat)

def isOctalDigit (c : Char) : Bool :=
  '0'.toNat ≤ c.toNat && c.toNat ≤ '7'.toNat

def inBase (base : Nat) (digits : List Char) : Nat :=
  digits.foldl (fun n c => n * base + hexValue c) 0

def takeHexCode (count : Nat) : Read Nat := do
  let digits ← takeWhileAtMost isHexDigit count
  if digits.length = count then return inBase 16 digits else refuse

def controlEscape? : Char → Option Nat
  | 'a' => some 7
  | 'f' => some 12
  | 'n' => some 10
  | 'r' => some 13
  | 't' => some 9
  | 'v' => some 11
  | '\\' => some 92
  | _ => none

def categoryEscape? (flags : Flags) : Char → Option SetItem
  | 'd' => some (.category .digit flags.ascii false)
  | 'D' => some (.category .digit flags.ascii true)
  | 's' => some (.category .space flags.ascii false)
  | 'S' => some (.category .space flags.ascii true)
  | 'w' => some (.category .word flags.ascii false)
  | 'W' => some (.category .word flags.ascii true)
  | _ => none

def anchorEscape? (flags : Flags) : Char → Option Anchor
  | 'A' => some .textStart
  | 'Z' => some .textEnd
  | 'b' => some (.wordEdge flags.ascii)
  | 'B' => some (.noWordEdge flags.ascii)
  | _ => none

def codeEscape (c : Char) : Read Nat := do
  match c with
  | 'x' => takeHexCode 2
  | 'u' => takeHexCode 4
  | 'U' =>
    let code ← takeHexCode 8
    if code < 0x110000 then return code else refuse
  | c => if c.isAlphanum then refuse else return c.toNat

/-- An octal code; it must fit a byte. -/
def octalCode (digits : List Char) : Read Nat :=
  let code := inBase 8 digits
  if code ≤ 255 then return code else refuse

def setEscape (flags : Flags) (c : Char) : Read SetItem := do
  if c = 'b' then return .single 8
  if let some code := controlEscape? c then return .single code
  if let some item := categoryEscape? flags c then return item
  if isOctalDigit c then
    return .single (← octalCode (c :: (← takeWhileAtMost isOctalDigit 2)))
  return .single (← codeEscape c)

def setMember (flags : Flags) : Sign → Read SetItem
  | .plain c => return .single c.toNat
  | .escaped c => setEscape flags c
  | .broken => refuse

/-- The members of a set up to its closing bracket, which may stand as the first member. -/
def setMembers (flags : Flags) : (fuel : Nat) → (members : List SetItem) → Read (List SetItem)
  | 0, _ => refuse
  | fuel + 1, members => do
    match ← takeSign with
    | none => refuse
    | some sign =>
      if sign = .plain ']' ∧ !members.isEmpty then
        return members.reverse
      let low ← setMember flags sign
      if ← accept '-' then
        match ← takeSign with
        | none => refuse
        | some (.plain ']') => return (SetItem.single '-'.toNat :: low :: members).reverse
        | some sign =>
          let high ← setMember flags sign
          match low, high with
          | .single a, .single b =>
            if b < a then refuse
            setMembers flags fuel (.range a b :: members)
          | _, _ => refuse
      else
        setMembers flags fuel (low :: members)

def literalNode (flags : Flags) (negated : Bool) (code : Nat) : Node :=
  .one ⟨negated, [.range code code], flags.folding⟩

def readSet (flags : Flags) : Read Node := do
  let negated ← accept '^'
  let members ← setMembers flags ((← get).rest.length + 1) []
  match members.eraseDups with
  | [.single code] => return literalNode flags negated code
  | members => return .one ⟨negated, members, flags.folding⟩

/-- What a part of a sequence is, as far as quantifiers care. -/
inductive PartKind where
  | ordinary
  | anchor
  | loop
  deriving DecidableEq, Repr

structure Part where
  node : Node
  width : Width
  kind : PartKind := .ordinary

def Part.char (node : Node) : Part :=
  ⟨node, ⟨1, 1⟩, .ordinary⟩

def Part.place (anchor : Anchor) : Part :=
  ⟨.at anchor, ⟨0, 0⟩, .anchor⟩

/-- The parts one after the other; they come in reverse. -/
def sequenceOf (parts : List Part) : Part :=
  parts.foldl
    (fun whole part => ⟨
      match whole.node with
      | .empty => part.node
      | node => .seq part.node node,
      ⟨part.width.low + whole.width.low, part.width.high + whole.width.high⟩, .ordinary⟩)
    ⟨.empty, ⟨0, 0⟩, .ordinary⟩

def Width.bounded (w : Width) : Width :=
  ⟨Nat.min w.low unboundedWidth, Nat.min w.high unboundedWidth⟩

/-- A reference to a closed group.  Inside a lookbehind the group must stem from outside of it. -/
def checkGroup (index : Nat) : Read Width := do
  let st ← get
  match st.widths[index - 1]? with
  | some (some width) =>
    if st.lookbehindFrom.any (· ≤ index) then refuse else return width
  | _ => refuse

/-- A conditional inside a lookbehind asks for a closed group from outside of it. -/
def checkAsked (index : Nat) : Read Unit := do
  if (← get).lookbehindFrom.isSome then
    let _ ← checkGroup index

/-- A reference by number behind a backslash, or an octal code of three digits. -/
def numberEscape (flags : Flags) (c : Char) : Read Part := do
  let reference (digits : List Char) : Read Part := do
    let index := inBase 10 digits
    if index ≤ (← get).widths.length then
      return ⟨.backref index flags.folding, ← checkGroup index, .ordinary⟩
    else
      refuse
  match ← peekSign with
  | some (.plain d) =>
    if d.isDigit then
      let _ ← takeSign
      match ← peekSign with
      | some (.plain e) =>
        if isOctalDigit c && isOctalDigit d && isOctalDigit e then
          let _ ← takeSign
          return .char (literalNode flags false (← octalCode [c, d, e]))
        else
          reference [c, d]
      | _ => reference [c, d]
    else
      reference [c]
  | _ => reference [c]

def readEscape (flags : Flags) (c : Char) : Read Part := do
  if let some anchor := anchorEscape? flags c then return .place anchor
  if let some item := categoryEscape? flags c then
    return .char (.one ⟨false, [item], flags.folding⟩)
  if let some code := controlEscape? c then return .char (literalNode flags false code)
  if c = '0' then
    let digits ← takeWhileAtMost isOctalDigit 2
    return .char (literalNode flags false (inBase 8 digits))
  if c.isDigit then
    numberEscape flags c
  else
    return .char (literalNode flags false (← codeEscape c))

def readCount (digits : List Char) : Read Nat := do
  if maxWholeDigits < digits.length then throw (.countTooLong digits.length)
  let count := inBase 10 digits
  if repetitionBound ≤ count then throw .repetitionTooLarge
  return count

/-- The bounds of a quantifier in braces, behind the opening brace; none if the brace stands for
itself, in which case nothing is taken. -/
def readBounds : Read (Option (Nat × Option Nat)) := do
  let start ← get
  if start.rest.head? = some (.plain '\x7d') then return none
  let low ← takeAll Char.isDigit
  let high ← if ← accept ',' then takeAll Char.isDigit else pure low
  unless ← accept '\x7d' do
    set start
    return none
  if (← get).rest.head? = some .broken then refuse
  let min ← if low.isEmpty then pure 0 else readCount low
  if high.isEmpty then return some (min, none)
  let max ← readCount high
  if max < min then refuse
  return some (min, some max)

def readGreed : Read Greed := do
  if ← accept '?' then
    return .lazy
  if ← accept '+' then
    return .possessive
  return .greedy

def quantify (min : Nat) (max : Option Nat) : List Part → Read (List Part)
  | [] => refuse
  | part :: parts => do
    if part.kind ≠ .ordinary then refuse
    let greed ← readGreed
    modify fun st => { st with hasLoop := true }
    let high :=
      match max with
      | some max => part.width.high * max
      | none => if part.width.high = 0 then 0 else unboundedWidth
    return ⟨.loop part.node min max greed, ⟨part.width.low * min, high⟩, .loop⟩ :: parts

def openGroup (name : Option (List Char)) : Read Nat := do
  let st ← get
  let index := st.widths.length + 1
  match name with
  | none => set { st with widths := st.widths ++ [none] }
  | some name =>
    let name := String.ofList name
    if (st.names.lookup name).isSome then refuse
    set { st with widths := st.widths ++ [none], names := st.names ++ [(name, index)] }
  return index

def closeGroup (index : Nat) (width : Width) : Read Unit :=
  modify fun st => { st with widths := st.widths.set (index - 1) (some width) }

def isFlag (c : Char) : Bool :=
  ['i', 'L', 'm', 's', 'x', 'a', 't', 'u'].contains c

def isModeFlag (c : Char) : Bool :=
  ['a', 'u', 'L'].contains c

def Flags.put (on : Bool) (flags : Flags) : Char → Flags
  | 'i' => { flags with ignoreCase := on }
  | 'm' => { flags with multiLine := on }
  | 's' => { flags with dotAll := on }
  | 'x' => { flags with verbose := on }
  | 'a' => { flags with ascii := on }
  | 'u' => { flags with ascii := !on }
  | _ => flags

/-- Letters of flags to turn on, up to a character that is none; the first is given. -/
def takeFlags : (fuel : Nat) → (flag : Char) → Read (List Char × Char)
  | 0, _ => refuse
  | fuel + 1, flag => do
    if flag = 'L' then refuse
    match ← takeSign with
    | some (.plain c) =>
      if c = ')' ∨ c = '-' ∨ c = ':' then return ([flag], c)
      if !isFlag c then refuse
      let (flags, last) ← takeFlags fuel c
      return (flag :: flags, last)
    | _ => refuse

def takeNegativeFlags : (fuel : Nat) → (flag : Char) → Read (List Char)
  | 0, _ => refuse
  | fuel + 1, flag => do
    if isModeFlag flag then refuse
    match ← takeSign with
    | some (.plain ':') => return [flag]
    | some (.plain c) => if isFlag c then return flag :: (← takeNegativeFlags fuel c) else refuse
    | _ => refuse

/-- Flags of a group behind `(?`, of which the first sign is given: those to turn on and those to
turn off, or none if they were flags of the whole pattern. -/
def readFlags (c : Char) : Read (Option (List Char × List Char)) := do
  let fuel := (← get).rest.length + 1
  let (on, stop) ← if c = '-' then pure ([], '-') else takeFlags fuel c
  if (on.filter isModeFlag).eraseDups.length > 1 then refuse
  if stop = ')' then
    modify fun st => { st with
      flags := (on.filter (· != 'u')).foldl (Flags.put true) st.flags
      unicodeAsked := st.unicodeAsked || on.contains 'u'
      plainMode := st.plainMode || on.contains 't' }
    return none
  if on.contains 't' then refuse
  let off ←
    if stop = '-' then
      match ← takeSign with
      | some (.plain c) => if isFlag c then takeNegativeFlags fuel c else refuse
      | _ => refuse
    else pure []
  if off.contains 't' || on.any off.contains then refuse
  return some (on, off)

def skipComment : Read Unit := do
  let rest := (← get).rest
  let comment := rest.takeWhile (· != .plain ')')
  if comment.length = rest.length then refuse
  modify fun st => { st with rest := st.rest.drop (comment.length + 1) }

/-- The number of a group that a conditional asks for.  Numbers may be padded with blanks, signed,
and grouped by underscores. -/
def askedNumber? (name : List Char) : Option Nat :=
  let body := match strip name with
    | '+' :: rest => rest
    | rest => rest
  let pieces := splitAt '_' body
  if pieces.any List.isEmpty then none else (pieces.flatten.mapM digitValue?).map ofDigits

def readCondition : Read Nat := do
  let name ← takeName ')'
  if isIdentifier name then
    match (← get).names.lookup (String.ofList name) with
    | some index => return index
    | none => refuse
  else
    match askedNumber? name with
    | none | some 0 => refuse
    | some index =>
      modify fun st => { st with asked := index :: st.asked }
      return index

def readNamedReference (flags : Flags) : Read Part := do
  let name ← takeName ')'
  match (← get).names.lookup (String.ofList name) with
  | none => refuse
  | some index => return ⟨.backref index flags.folding, ← checkGroup index, .ordinary⟩

def Width.either (a b : Width) : Width :=
  ⟨Nat.min a.low b.low, Nat.max a.high b.high⟩

def isPatternBlank (c : Char) : Bool :=
  c == ' ' || (9 ≤ c.toNat && c.toNat ≤ 13)

mutual

/-- Alternatives up to a closing bracket or the end.  Each sign costs at most three units of
`fuel`. -/
def readAlternatives (fuel : Nat) (flags : Option Flags) (first : Bool) : Read Part := do
  match fuel with
  | 0 => refuse
  | fuel + 1 =>
    let one ← readSequence fuel (flags.getD (← get).flags) (flags.isNone && first) []
    if ← accept '|' then
      let others ← readAlternatives fuel flags false
      return ⟨.alt one.node others.node, one.width.either others.width, .ordinary⟩
    else
      return one

/-- A sequence of parts up to a bar, a closing bracket or the end.  `top` tells the beginning of
the pattern, where flags of the whole pattern may stand. -/
def readSequence (fuel : Nat) (flags : Flags) (top : Bool) (parts : List Part) : Read Part := do
  match fuel with
  | 0 => refuse
  | fuel + 1 =>
    let more (part : Part) : Read Part := readSequence fuel flags top (part :: parts)
    let again (min : Nat) (max : Option Nat) : Read Part := do
      readSequence fuel flags top (← quantify min max parts)
    match ← peekSign with
    | none | some (.plain '|') | some (.plain ')') =>
      let whole := sequenceOf parts
      return { whole with width := whole.width.bounded }
    | some sign =>
      let _ ← takeSign
      match sign with
      | .broken => refuse
      | .escaped c => more (← readEscape flags c)
      | .plain c =>
        if flags.verbose && isPatternBlank c then
          readSequence fuel flags top parts
        else if flags.verbose && c == '#' then
          modify fun st =>
            { st with rest := (st.rest.dropWhile (· != .plain '\n')).tail }
          readSequence fuel flags top parts
        else
          match c with
          | '[' => more (.char (← readSet flags))
          | '.' =>
            if flags.dotAll then more (.char (.one ⟨true, [], .none⟩))
            else more (.char (.one ⟨true, [.single 10], .none⟩))
          | '^' => more (.place (if flags.multiLine then .lineStart else .textStart))
          | '$' => more (.place (if flags.multiLine then .lineEnd else .lastLineEnd))
          | '*' => again 0 none
          | '+' => again 1 none
          | '?' => again 0 (some 1)
          | '\x7b' =>
            match ← readBounds with
            | some (min, max) => again min max
            | none => more (.char (literalNode flags false c.toNat))
          | '(' =>
            if ← accept '?' then
              match ← takeSign with
              | some (.plain c) =>
                match c with
                | '#' =>
                  skipComment
                  readSequence fuel flags top parts
                | 'P' =>
                  if ← accept '<' then
                    let name ← takeName '>'
                    if isIdentifier name then more (← readGroup fuel flags (some name)) else refuse
                  else
                    demand '='
                    more (← readNamedReference flags)
                | ':' => more (← readPlainGroup fuel flags)
                | '>' =>
                  let body ← readPlainGroup fuel flags
                  more { body with node := .atomic body.node }
                | '=' =>
                  let body ← readPlainGroup fuel flags
                  more ⟨.lookahead true body.node, ⟨0, 0⟩, .ordinary⟩
                | '!' =>
                  let body ← readPlainGroup fuel flags
                  more ⟨.lookahead false body.node, ⟨0, 0⟩, .ordinary⟩
                | '<' =>
                  if ← accept '=' then more (← readLookbehind fuel flags true)
                  else
                    demand '!'
                    more (← readLookbehind fuel flags false)
                | '(' => more (← readConditional fuel flags)
                | c =>
                  if isFlag c || c == '-' then
                    match ← readFlags c with
                    | none =>
                      if top && parts.isEmpty then
                        readSequence fuel (← get).flags top parts
                      else
                        refuse
                    | some (on, off) =>
                      let inner := off.foldl (Flags.put false) (on.foldl (Flags.put true) flags)
                      more (← readPlainGroup fuel inner)
                  else
                    refuse
              | _ => refuse
            else
              more (← readGroup fuel flags none)
          | c => more (.char (literalNode flags false c.toNat))

def readGroup (fuel : Nat) (flags : Flags) (name : Option (List Char)) : Read Part := do
  match fuel with
  | 0 => refuse
  | fuel + 1 =>
    let index ← openGroup name
    let body ← readAlternatives fuel (some flags) false
    demand ')'
    closeGroup index body.width
    return { body with node := .group index body.node }

def readPlainGroup (fuel : Nat) (flags : Flags) : Read Part := do
  match fuel with
  | 0 => refuse
  | fuel + 1 =>
    let body ← readAlternatives fuel (some flags) false
    demand ')'
    return body

def readLookbehind (fuel : Nat) (flags : Flags) (positive : Bool) : Read Part := do
  match fuel with
  | 0 => refuse
  | fuel + 1 =>
    let outer := (← get).lookbehindFrom
    modify fun st => { st with
      lookbehindFrom := some (outer.getD (st.widths.length + 1)) }
    let body ← readAlternatives fuel (some flags) false
    modify fun st => { st with
      lookbehindFrom := outer
      badLookbehind := st.badLookbehind || body.width.low != body.width.high }
    demand ')'
    return ⟨.lookbehind positive body.width.low body.node, ⟨0, 0⟩, .ordinary⟩

def readConditional (fuel : Nat) (flags : Flags) : Read Part := do
  match fuel with
  | 0 => refuse
  | fuel + 1 =>
    let index ← readCondition
    checkAsked index
    let yes ← readSequence fuel flags false []
    let no ←
      if ← accept '|' then readSequence fuel flags false []
      else pure ⟨.empty, ⟨0, 0⟩, .ordinary⟩
    demand ')'
    return ⟨.conditional index yes.node no.node, yes.width.either no.width, .ordinary⟩

end

def readPattern : Read Pattern := do
  let whole ← readAlternatives (3 * (← get).rest.length + 3) none true
  let st ← get
  if st.flags.ascii && st.unicodeAsked then throw .flagConflict
  if !st.rest.isEmpty then refuse
  if st.asked.any (st.widths.length < ·) then refuse
  if st.badLookbehind || (st.plainMode && st.hasLoop) then refuse
  return ⟨whole.node, st.names⟩

end LogSelect.Pattern

def LogSelect.Pattern.ofText (s : String) : Except Pattern.ReadError Pattern :=
  (Pattern.readPattern.run { rest := Pattern.signs s.toList }).map Prod.fst

import LogSelect.Yaml.Kind
import LogSelect.Yaml.Token

/-!
The tree of nodes that a YAML text spells.

A text holds one document.  A node may have an anchor and a tag; a reference stands for the node of
its anchor, which must be complete.  Where a node is left out, a scalar without text takes its
place.
-/

namespace LogSelect.Yaml

inductive Node where
  | scalar (kind : Kind) (text : String)
  | sequence (kind : Kind) (items : List Node)
  | mapping (kind : Kind) (entries : List (Node × Node))

namespace Node

/-- A scalar.  It tells its kind by its form if it is plain and has no tag, or the tag of one
exclamation mark. -/
def ofScalar (plain : Bool) (tag : Option (List Char)) (text : List Char) : Node :=
  let text := String.ofList text
  .scalar (Kind.ofMark (if plain || tag.isSome then Kind.ofForm text else .text) tag) text

def empty : Node :=
  ofScalar true none []

end Node

/-- The tokens that remain, and what names stand for. -/
structure Reader where
  tokens : List Token
  anchors : List (List Char × Node)
  handles : List (List Char × List Char)

abbrev Reading (α : Type) := StateT Reader (Except Error) α

namespace Reading

def peek : Reading Token := do
  match (← get).tokens with
  | [] => throw .malformed
  | .broken error :: _ => throw error
  | token :: _ => return token

def skip : Reading Unit :=
  modify fun reader => { reader with tokens := reader.tokens.tail }

def standardHandles : List (List Char × List Char) :=
  [(['!'], ['!']), (['!', '!'], Kind.tagStart)]

def anchor? : Reading (Option (List Char)) := do
  match ← peek with
  | .anchor name => skip; return some name
  | _ => return none

def tag? : Reading (Option (List Char)) := do
  match ← peek with
  | .tag none text => skip; return some text
  | .tag (some handle) text =>
    match (← get).handles.lookup handle with
    | some expansion => skip; return some (expansion ++ text)
    | none => throw .malformed
  | _ => return none

def properties : Reading (Option (List Char) × Option (List Char)) := do
  match ← anchor? with
  | some anchor => return (some anchor, ← tag?)
  | none =>
    let tag ← tag?
    return (← if tag.isSome then anchor? else pure none, tag)

def define (anchor : Option (List Char)) (node : Node) : Reading Unit := do
  match anchor with
  | none => return
  | some name =>
    if (← get).anchors.any (·.1 == name) then throw .malformed
    modify fun reader => { reader with anchors := (name, node) :: reader.anchors }

inductive Place where
  | flow
  | block
  /-- A key or a value in a block, where entries of a sequence need no indentation. -/
  | pair
  deriving DecidableEq

/-- The empty node where one of the tokens `ends` follows, else the node that `read` finds. -/
def orEmpty (ends : Token → Bool) (read : Reading Node) : Reading Node := do
  if ends (← peek) then return .empty else read

def endsBlockPart : Token → Bool
  | .key | .value | .blockEnd => true
  | _ => false

/-- Whether an entry ends before a token; one without indentation also before keys and values. -/
def endsEntry (indented : Bool) : Token → Bool
  | .entry | .blockEnd => true
  | .key | .value => !indented
  | _ => false

def endsItem : Token → Bool
  | .comma | .sequenceEnd | .mappingEnd => true
  | _ => false

def endsFlowKey (token : Token) : Bool :=
  endsItem token || token matches .value

def pairValue (ends : Token → Bool) (read : Reading Node) : Reading Node := do
  match ← peek with
  | .value => skip; orEmpty ends read
  | _ => return .empty

mutual

/-- A node.  Each node and each member costs one unit of `fuel`, and its content another. -/
def node (place : Place) : (fuel : Nat) → Reading Node
  | 0 => throw .malformed
  | fuel + 1 => do
    match ← peek with
    | .reference name =>
      match (← get).anchors.lookup name with
      | some node => skip; return node
      | none => throw .malformed
    | _ =>
      let (anchor, tag) ← properties
      let result ← content place anchor.isSome tag fuel
      define anchor result
      return result

def content (place : Place) (named : Bool) (tag : Option (List Char)) :
    (fuel : Nat) → Reading Node
  | 0 => throw .malformed
  | fuel + 1 => do
    match ← peek with
    | .scalar plain text => skip; return .ofScalar plain tag text
    | .sequenceStart =>
      skip
      return .sequence (.ofMark .sequence tag) (← flowItems true fuel)
    | .mappingStart =>
      skip
      return .mapping (.ofMark .mapping tag) (← flowEntries true fuel)
    | token =>
      if place = .pair && token matches .entry then
        return .sequence (.ofMark .sequence tag) (← blockItems false fuel)
      else if place ≠ .flow && token matches .blockSequence then
        skip
        return .sequence (.ofMark .sequence tag) (← blockItems true fuel)
      else if place ≠ .flow && token matches .blockMapping then
        skip
        return .mapping (.ofMark .mapping tag) (← blockEntries fuel)
      else if named || tag.isSome then
        return .ofScalar true tag []
      else
        throw .malformed

def blockItems (indented : Bool) : (fuel : Nat) → Reading (List Node)
  | 0 => throw .malformed
  | fuel + 1 => do
    match ← peek with
    | .entry =>
      skip
      let item ← orEmpty (endsEntry indented) (node .block fuel)
      return item :: (← blockItems indented fuel)
    | token =>
      if !indented then return []
      else if token matches .blockEnd then skip; return []
      else throw .malformed

def blockEntries : (fuel : Nat) → Reading (List (Node × Node))
  | 0 => throw .malformed
  | fuel + 1 => do
    match ← peek with
    | .key =>
      skip
      let key ← orEmpty endsBlockPart (node .pair fuel)
      let value ← pairValue endsBlockPart (node .pair fuel)
      return (key, value) :: (← blockEntries fuel)
    | .blockEnd => skip; return []
    | _ => throw .malformed

/-- The items of a flow sequence.  A pair among them is a mapping of its own. -/
def flowItems (first : Bool) : (fuel : Nat) → Reading (List Node)
  | 0 => throw .malformed
  | fuel + 1 => do
    match first, ← peek with
    | _, .sequenceEnd => skip; return []
    | false, .comma => skip; flowItem fuel
    | false, _ => throw .malformed
    | true, _ => flowItem fuel

def flowItem : (fuel : Nat) → Reading (List Node)
  | 0 => throw .malformed
  | fuel + 1 => do
    match ← peek with
    | .sequenceEnd => skip; return []
    | .key =>
      skip
      let key ← orEmpty endsFlowKey (node .flow fuel)
      let value ← pairValue endsItem (node .flow fuel)
      return .mapping .mapping [(key, value)] :: (← flowItems false fuel)
    | _ =>
      let item ← node .flow fuel
      return item :: (← flowItems false fuel)

def flowEntries (first : Bool) : (fuel : Nat) → Reading (List (Node × Node))
  | 0 => throw .malformed
  | fuel + 1 => do
    match first, ← peek with
    | _, .mappingEnd => skip; return []
    | false, .comma => skip; flowEntry fuel
    | false, _ => throw .malformed
    | true, _ => flowEntry fuel

/-- The pairs of a flow mapping from a pair on.  A key alone has the empty node as its value. -/
def flowEntry : (fuel : Nat) → Reading (List (Node × Node))
  | 0 => throw .malformed
  | fuel + 1 => do
    match ← peek with
    | .mappingEnd => skip; return []
    | .key =>
      skip
      let key ← orEmpty endsFlowKey (node .flow fuel)
      let value ← pairValue endsItem (node .flow fuel)
      return (key, value) :: (← flowEntries false fuel)
    | _ =>
      let key ← node .flow fuel
      return (key, .empty) :: (← flowEntries false fuel)

end

/-- The tag handles of the directives at the front.  No handle and no version is given twice, and
the version is 1. -/
def directives (version : Bool) (handles : List (List Char × List Char)) :
    (fuel : Nat) → Reading (List (List Char × List Char))
  | 0 => throw .malformed
  | fuel + 1 => do
    match ← peek with
    | .directive (.version major) =>
      if version || major ≠ 1 then throw .malformed
      skip
      directives true handles fuel
    | .directive (.tagHandle handle expansion) =>
      if handles.any (·.1 == handle) then throw .malformed
      skip
      directives version ((handle, expansion) :: handles) fuel
    | .directive .reserved => skip; directives version handles fuel
    | _ => return handles

def endsDocument : Token → Bool
  | .directive _ | .documentStart | .documentEnd | .stop => true
  | _ => false

/-- The tree of the only document.  A text without document is null. -/
def document : Reading Node := do
  let fuel := 4 * (← get).tokens.length + 4
  match ← peek with
  | .stop => return .empty
  | .directive _ | .documentStart =>
    let handles ← directives false [] fuel
    modify fun reader => { reader with handles := handles ++ reader.handles }
    match ← peek with
    | .documentStart => skip; orEmpty endsDocument (node .block fuel)
    | _ => throw .malformed
  | _ => node .block fuel

def finish : (fuel : Nat) → Reading Unit
  | 0 => throw .malformed
  | fuel + 1 => do
    match ← peek with
    | .documentEnd => skip; finish fuel
    | .stop => return
    | _ => throw .malformed

end Reading

def Node.ofTokens (tokens : List Token) : Except Error Node :=
  let read : Reading Node := do
    let node ← Reading.document
    Reading.finish (tokens.length + 1)
    return node
  read.run' ⟨tokens, [], Reading.standardHandles⟩

end LogSelect.Yaml

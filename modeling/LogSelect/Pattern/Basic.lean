import LogSelect.Pattern.CharSet

/-!
Patterns of text.

A pattern is a tree of characters, anchors, sequences, alternatives, groups and repetitions.
Groups are numbered in the order of their opening brackets, starting from one, and may have names.
-/

namespace LogSelect.Pattern

inductive Anchor where
  | textStart
  | textEnd
  /-- The end, or the line feed that ends the text. -/
  | lastLineEnd
  | lineStart
  | lineEnd
  | wordEdge (ascii : Bool)
  | noWordEdge (ascii : Bool)
  deriving DecidableEq, Repr

/-- In which order the numbers of repetitions are tried. -/
inductive Greed where
  | greedy
  | lazy
  /-- As many as possible, and never fewer. -/
  | possessive
  deriving DecidableEq, Repr

inductive Node where
  | empty
  | one (set : CharSet)
  | at (anchor : Anchor)
  | seq (first second : Node)
  | alt (first second : Node)
  | group (index : Nat) (body : Node)
  | backref (index : Nat) (folding : Folding)
  /-- What stands behind this place must match, or must not. -/
  | lookahead (positive : Bool) (body : Node)
  /-- What stands before this place must match, or must not; the body has a fixed width. -/
  | lookbehind (positive : Bool) (width : Nat) (body : Node)
  | loop (body : Node) (min : Nat) (max : Option Nat) (greed : Greed)
  | atomic (body : Node)
  /-- One of two patterns, by whether a group has matched. -/
  | conditional (index : Nat) (set unset : Node)
  deriving Repr

end LogSelect.Pattern

namespace LogSelect

structure Pattern where
  root : Pattern.Node
  names : List (String × Nat)
  deriving Repr

end LogSelect

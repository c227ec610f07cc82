import LogSelect.Pattern.Basic

/-!
Matching by backtracking.

`Node.run` matches a pattern at a place of a text and hands the place behind it to what follows; if
that fails, the next way of matching is tried, in the order that the pattern prescribes.  A
repetition takes another turn only if the last turn moved on, so the remaining text bounds the
number of turns.  A group that is matched again keeps its last match.
-/

namespace LogSelect.Pattern

/-- A place in a text and the matches of the groups up to now, latest first. -/
structure Progress where
  pos : Nat
  groups : List (Nat × Nat × Nat)

namespace Progress

def group? (st : Progress) (index : Nat) : Option (Nat × Nat) :=
  st.groups.lookup index

def withGroup (st : Progress) (index start stop : Nat) : Progress :=
  { st with groups := (index, start, stop) :: st.groups.filter fun entry => entry.1 != index }

end Progress

/-- What follows a match. -/
abbrev Cont := Progress → Option Progress

def isWordAt (text : Array Char) (ascii : Bool) (pos : Nat) : Bool :=
  (text[pos]?).any (Category.word.contains ascii)

/-- Whether a place lies between a word character and another place.  A text without characters
has no places of this kind, nor of the opposite kind. -/
def wordEdgeAt (text : Array Char) (ascii : Bool) (pos : Nat) : Bool :=
  (0 < pos && isWordAt text ascii (pos - 1)) != isWordAt text ascii pos

def Anchor.holdsAt (text : Array Char) (pos : Nat) : Anchor → Bool
  | .textStart => pos == 0
  | .textEnd => pos == text.size
  | .lastLineEnd => pos == text.size || (pos + 1 == text.size && text[pos]? == some '\n')
  | .lineStart => pos == 0 || text[pos - 1]? == some '\n'
  | .lineEnd => pos == text.size || text[pos]? == some '\n'
  | .wordEdge ascii => text.size != 0 && wordEdgeAt text ascii pos
  | .noWordEdge ascii => text.size != 0 && !wordEdgeAt text ascii pos

def sameStretch (text : Array Char) (folding : Folding) (a b : Nat) : (count : Nat) → Bool
  | 0 => true
  | count + 1 =>
    match text[a]?, text[b]? with
    | some c, some d =>
      sameFolded folding c.toNat d.toNat && sameStretch text folding (a + 1) (b + 1) count
    | _, _ => false

/-- Take turns of `turn`, as many as possible first.  After `min` turns a turn is only taken if the
place is not `last`, the one where the turn before began. -/
def manyGreedy (turn : Cont → Cont) (min : Nat) (max : Option Nat) (next : Cont) :
    (fuel count : Nat) → (last : Option Nat) → Cont
  | 0, _, _, _ => none
  | fuel + 1, count, last, st =>
    if count < min then
      turn (manyGreedy turn min max next fuel (count + 1) last) st
    else if max.all (count < ·) && last != some st.pos then
      (turn (manyGreedy turn min max next fuel (count + 1) (some st.pos)) st).orElse fun _ =>
        next st
    else
      next st

def manyLazy (turn : Cont → Cont) (min : Nat) (max : Option Nat) (next : Cont) :
    (fuel count : Nat) → (last : Option Nat) → Cont
  | 0, _, _, _ => none
  | fuel + 1, count, last, st =>
    if count < min then
      turn (manyLazy turn min max next fuel (count + 1) last) st
    else
      (next st).orElse fun _ =>
        if max.all (count < ·) && last != some st.pos then
          turn (manyLazy turn min max next fuel (count + 1) (some st.pos)) st
        else
          none

def once (turn : Cont → Cont) (next : Cont) : Cont := fun st =>
  (turn some st).bind next

def Node.run (text : Array Char) : Node → Cont → Cont
  | .empty, next => next
  | .one set, next => fun st =>
    if (text[st.pos]?).any set.contains then next { st with pos := st.pos + 1 } else none
  | .at anchor, next => fun st => if anchor.holdsAt text st.pos then next st else none
  | .seq first second, next => first.run text (second.run text next)
  | .alt first second, next => fun st =>
    (first.run text next st).orElse fun _ => second.run text next st
  | .group index body, next => fun st =>
    body.run text (fun st' => next (st'.withGroup index st.pos st'.pos)) st
  | .backref index folding, next => fun st =>
    match st.group? index with
    | none => none
    | some (start, stop) =>
      if sameStretch text folding start st.pos (stop - start) then
        next { st with pos := st.pos + (stop - start) }
      else
        none
  | .lookahead true body, next => fun st =>
    (body.run text some st).bind fun st' => next { st' with pos := st.pos }
  | .lookahead false body, next => fun st =>
    if (body.run text some st).isSome then none else next st
  | .lookbehind true width body, next => fun st =>
    if st.pos < width then none
    else
      (body.run text some { st with pos := st.pos - width }).bind fun st' =>
        next { st' with pos := st.pos }
  | .lookbehind false width body, next => fun st =>
    if width ≤ st.pos ∧ (body.run text some { st with pos := st.pos - width }).isSome then none
    else next st
  | .loop body min max .greedy, next => fun st =>
    manyGreedy (body.run text) min max next (min + (text.size - st.pos) + 2) 0 none st
  | .loop body min max .lazy, next => fun st =>
    manyLazy (body.run text) min max next (min + (text.size - st.pos) + 2) 0 none st
  | .loop body min max .possessive, next => fun st =>
    once (fun last => fun st =>
      manyGreedy (once (body.run text)) min max last (min + (text.size - st.pos) + 2) 0 none st)
      next st
  | .atomic body, next => once (body.run text) next
  | .conditional index set unset, next => fun st =>
    if (st.group? index).isSome then set.run text next st else unset.run text next st

end LogSelect.Pattern

namespace LogSelect.Pattern

def searchFrom (pattern : Pattern) (text : Array Char) (pos : Nat) :
    (count : Nat) → Option Progress
  | 0 => none
  | count + 1 =>
    (pattern.root.run text some ⟨pos, []⟩).orElse fun _ =>
      searchFrom pattern text (pos + 1) count

def groupText (text : Array Char) (result : Progress) (index : Nat) : Option String :=
  (result.group? index).map fun (start, stop) =>
    String.ofList (text.extract start stop).toList

/-- Search a text from left to right.  The result gives the text of each named group, if the group
took part in the match. -/
def search (pattern : Pattern) (s : String) : Option (String → Option String) :=
  let text := s.toList.toArray
  (searchFrom pattern text 0 (text.size + 1)).map fun result name =>
    (pattern.names.lookup name).bind (groupText text result)

def matchesAll (pattern : Pattern) (s : String) : Bool :=
  let text := s.toList.toArray
  (pattern.root.run text (fun st => if st.pos = text.size then some st else none) ⟨0, []⟩).isSome

end LogSelect.Pattern

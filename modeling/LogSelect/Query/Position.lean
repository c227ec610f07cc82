/-!
Places in a query text: line and column, both counted from one, and the number of characters
before the place.
-/

namespace LogSelect

structure Position where
  line : Nat
  column : Nat
  offset : Nat
  deriving DecidableEq, Repr

namespace Position

def start : Position :=
  ⟨1, 1, 0⟩

/-- The place behind one character: a line feed starts the next line. -/
def next (pos : Position) (c : Char) : Position :=
  if c = '\n' then ⟨pos.line + 1, 1, pos.offset + 1⟩
  else ⟨pos.line, pos.column + 1, pos.offset + 1⟩

def after (pos : Position) (cs : List Char) : Position :=
  cs.foldl next pos

@[simp]
theorem after_nil (pos : Position) : pos.after [] = pos := rfl

@[simp]
theorem after_cons (pos : Position) (c : Char) (cs : List Char) :
    pos.after (c :: cs) = (pos.next c).after cs := rfl

@[simp]
theorem after_append (pos : Position) (cs ds : List Char) :
    pos.after (cs ++ ds) = (pos.after cs).after ds :=
  List.foldl_append

@[simp]
theorem offset_after (pos : Position) (cs : List Char) :
    (pos.after cs).offset = pos.offset + cs.length := by
  induction cs generalizing pos with
  | nil => rfl
  | cons c cs ih =>
    rw [after_cons, ih, next]
    split <;> simp only [List.length_cons] <;> omega

end Position

end LogSelect

import LogSelect.Proofs.Text.Stretch
import LogSelect.Text.Blank

/-!
Texts freed of the blanks at their ends: what is dropped is blank, and what is left neither begins
nor ends with a blank.
-/

namespace LogSelect

def AllBlank (cs : List Char) : Prop :=
  ∀ c ∈ cs, isBlank c = true

theorem isBlankText_iff {s : String} : isBlankText s = true ↔ AllBlank s.toList :=
  List.all_eq_true

variable {cs front back : List Char}

theorem strip_eq_self (first : ∀ c ∈ cs.head?, isBlank c = false)
    (last : ∀ c ∈ cs.getLast?, isBlank c = false) : strip cs = cs := by
  rw [← List.head?_reverse] at last
  rw [strip, dropWhile_eq_self first, dropRightWhile, dropWhile_eq_self last, List.reverse_reverse]

theorem strip_append (blank : AllBlank front) (piece : List Char) :
    strip (front ++ piece) = strip piece := by
  rw [strip, strip, List.dropWhile_append_of_pos blank]

theorem dropRightWhile_append {p : Char → Bool} (all : ∀ c ∈ back, p c = true) (cs : List Char) :
    dropRightWhile p (cs ++ back) = dropRightWhile p cs := by
  rw [dropRightWhile, dropRightWhile, List.reverse_append, List.dropWhile_append_of_pos]
  intro c member
  exact all c (List.mem_reverse.1 member)

theorem dropRightWhile_append_of_last {p : Char → Bool} (last : ∀ c ∈ cs.getLast?, p c = false)
    (back : List Char) : dropRightWhile p (cs ++ back) = cs ++ dropRightWhile p back := by
  rw [← List.head?_reverse] at last
  rw [dropRightWhile, dropRightWhile, List.reverse_append, List.dropWhile_append]
  split
  next empty => rw [dropWhile_eq_self last, List.isEmpty_iff.1 empty]; simp
  next => simp

theorem exists_dropRightWhile (p : Char → Bool) (cs : List Char) :
    ∃ back, cs = dropRightWhile p cs ++ back ∧ ∀ c ∈ back, p c = true := by
  refine ⟨(cs.reverse.takeWhile p).reverse, ?_, ?_⟩
  · rw [dropRightWhile, ← List.reverse_append, List.takeWhile_append_dropWhile,
      List.reverse_reverse]
  · intro c member
    exact List.mem_takeWhile_imp (List.mem_reverse.1 member)

theorem mem_of_mem_dropRightWhile {p : Char → Bool} {c : Char} (kept : c ∈ dropRightWhile p cs) :
    c ∈ cs := by
  obtain ⟨back, split, -⟩ := exists_dropRightWhile p cs
  rw [split]
  exact List.mem_append_left back kept

theorem getElem?_dropRightWhile {p : Char → Bool} {c : Char} {i : Nat} (found : cs[i]? = some c)
    (other : p c = false) : (dropRightWhile p cs)[i]? = some c := by
  obtain ⟨back, split, all⟩ := exists_dropRightWhile p cs
  rw [split] at found
  rcases Nat.lt_or_ge i (dropRightWhile p cs).length with before | behind
  · rwa [List.getElem?_append_left before] at found
  · rw [List.getElem?_append_right behind] at found
    rw [all c (List.mem_of_getElem? found)] at other
    contradiction

theorem mem_dropRightWhile_cons {p : Char → Bool} {c d : Char} (other : d ≠ c) :
    d ∈ dropRightWhile p (c :: cs) ↔ d ∈ dropRightWhile p cs := by
  rw [dropRightWhile, dropRightWhile, List.reverse_cons, List.dropWhile_append, List.mem_reverse,
    List.mem_reverse]
  split
  next empty =>
    rw [List.isEmpty_iff.1 empty]
    refine ⟨fun member => ?_, fun member => absurd member List.not_mem_nil⟩
    have same := (List.dropWhile_suffix p).subset member
    exact absurd (List.mem_singleton.1 same) other
  next => rw [List.mem_append, List.mem_singleton, or_iff_left other]

/-- A text is what is left of it between blanks. -/
theorem exists_strip (cs : List Char) :
    ∃ front back, cs = front ++ (strip cs ++ back) ∧ AllBlank front ∧ AllBlank back := by
  obtain ⟨back, split, blank⟩ := exists_dropRightWhile isBlank (cs.dropWhile isBlank)
  refine ⟨cs.takeWhile isBlank, back, ?_, ?_, blank⟩
  · rw [strip, ← split, List.takeWhile_append_dropWhile]
  · exact fun _ => List.mem_takeWhile_imp

theorem strip_between (blankFront : AllBlank front) (blankBack : AllBlank back)
    (first : ∀ c ∈ cs.head?, isBlank c = false) (last : ∀ c ∈ cs.getLast?, isBlank c = false) :
    strip (front ++ (cs ++ back)) = cs := by
  rw [strip_append blankFront]
  cases cs with
  | nil =>
    rw [List.nil_append, strip, ← List.append_nil back, List.dropWhile_append_of_pos blankBack]
    rfl
  | cons c cs =>
    have front : (c :: cs ++ back).dropWhile isBlank = c :: cs ++ back := dropWhile_eq_self first
    have self := strip_eq_self first last
    rw [strip, dropWhile_eq_self first] at self
    rw [strip, front, dropRightWhile_append blankBack, self]

end LogSelect

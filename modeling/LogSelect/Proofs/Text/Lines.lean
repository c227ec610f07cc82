import Mathlib.Algebra.BigOperators.Group.Finset.Basic
import Mathlib.Tactic.Ring
import LogSelect.Text.Lines

/-!
Texts cut at every occurrence of a character, and pieces joined by a divider.

Cutting undoes joining where no piece holds the divider.  In a joined text every piece stands behind
the pieces and dividers before it.
-/

namespace LogSelect

/-! ## Cutting -/

section Cutting

variable {sep : Char} {cs : List Char} {pieces : List (List Char)}

theorem splitAt_eq_splitOn (sep : Char) (cs : List Char) : splitAt sep cs = cs.splitOn sep := by
  induction cs with
  | nil => rfl
  | cons c cs ih =>
    rw [splitAt, List.splitOn_cons_eq_if_modifyHead, ih]
    by_cases same : c = sep
    · simp [same]
    · obtain ⟨piece, others, split⟩ := List.exists_cons_of_ne_nil (List.splitOn_ne_nil sep cs)
      simp [same, split]

theorem splitAt_append_cons (sep : Char) (cs ds : List Char) :
    splitAt sep (cs ++ sep :: ds) = splitAt sep cs ++ splitAt sep ds := by
  simp only [splitAt_eq_splitOn, List.splitOn_append_cons_self]

theorem splitAt_intercalate (nonempty : pieces ≠ []) (whole : ∀ piece ∈ pieces, sep ∉ piece) :
    splitAt sep ([sep].intercalate pieces) = pieces := by
  rw [splitAt_eq_splitOn, List.splitOn_intercalate sep whole nonempty]

theorem splitAt_of_not_mem (whole : sep ∉ cs) : splitAt sep cs = [cs] := by
  have wholePiece : ∀ piece ∈ [cs], sep ∉ piece := by
    intro piece member
    rwa [List.mem_singleton.1 member]
  have single := splitAt_intercalate (List.cons_ne_nil cs []) wholePiece
  rwa [List.intercalate_singleton] at single

theorem length_splitAt (sep : Char) (cs : List Char) :
    (splitAt sep cs).length = cs.count sep + 1 := by
  induction cs with
  | nil => rfl
  | cons c cs ih =>
    rw [splitAt_eq_splitOn] at ih ⊢
    rw [List.splitOn_cons_eq_if_modifyHead]
    by_cases same : c = sep
    · simp [same, ih]
    · simp [same, ih]

theorem not_mem_of_mem_splitAt {piece : List Char} (member : piece ∈ splitAt sep cs) :
    sep ∉ piece := by
  induction cs generalizing piece with
  | nil =>
    rw [splitAt, List.mem_singleton] at member
    rw [member]
    exact List.not_mem_nil
  | cons c cs ih =>
    rw [splitAt] at member
    split at member
    next same =>
      rcases List.mem_cons.1 member with rfl | inRest
      · exact List.not_mem_nil
      · exact ih inRest
    next other =>
      split at member
      next empty =>
        rw [List.mem_singleton] at member
        rw [member, List.mem_singleton]
        exact fun same => other same.symm
      next front others split =>
        rw [split] at ih
        rcases List.mem_cons.1 member with rfl | inOthers
        · intro inside
          rcases List.mem_cons.1 inside with same | inFront
          · exact other same.symm
          · exact ih List.mem_cons_self inFront
        · exact ih (List.mem_cons_of_mem _ inOthers)

end Cutting

/-! ## Joining -/

section Joining

variable {α : Type} {sep : List α} {pieces : List (List α)} {width : Nat → Nat} {i : Nat}

theorem prefix_intercalate (sep piece : List α) (pieces : List (List α)) :
    piece <+: sep.intercalate (piece :: pieces) := by
  cases pieces with
  | nil => exact ⟨[], by simp⟩
  | cons next pieces =>
    rw [List.intercalate_cons_cons, List.append_assoc]
    exact List.prefix_append piece _

theorem intercalate_eq_append (inside : i < pieces.length) :
    sep.intercalate pieces =
      (pieces.take i).flatMap (· ++ sep) ++ sep.intercalate (pieces.drop i) := by
  induction i generalizing pieces with
  | zero => simp
  | succ i ih =>
    match pieces, inside with
    | piece :: next :: pieces, inside =>
      have others : i < (next :: pieces).length := Nat.lt_of_succ_lt_succ inside
      rw [List.intercalate_cons_cons, ih others]
      simp [List.append_assoc]

theorem length_flatMap_take (sized : ∀ j < pieces.length, (pieces[j]?.getD []).length = width j)
    (inside : i ≤ pieces.length) :
    ((pieces.take i).flatMap (· ++ sep)).length =
      ∑ j ∈ Finset.range i, width j + sep.length * i := by
  induction i with
  | zero => rfl
  | succ i ih =>
    have size := sized i inside
    have shorter := ih (Nat.le_of_succ_le inside)
    rw [List.getElem?_eq_getElem inside, Option.getD_some] at size
    rw [List.take_succ_eq_append_getElem inside, List.flatMap_append, List.length_append, shorter,
      Finset.sum_range_succ, List.flatMap_singleton, List.length_append, size]
    ring

/-- Where the lengths of the pieces are known, so are their places. -/
theorem drop_intercalate (sep : List α)
    (sized : ∀ j < pieces.length, (pieces[j]?.getD []).length = width j)
    (inside : i < pieces.length) :
    (sep.intercalate pieces).drop (∑ j ∈ Finset.range i, width j + sep.length * i) =
      sep.intercalate (pieces.drop i) := by
  rw [intercalate_eq_append inside, ← length_flatMap_take sized inside.le, List.drop_left]

theorem getElem?_intercalate (sized : ∀ j < pieces.length, (pieces[j]?.getD []).length = width j)
    (inside : i + 1 < pieces.length) {k : Nat} (within : k < sep.length) :
    (sep.intercalate pieces)[∑ j ∈ Finset.range (i + 1), width j + sep.length * i + k]? =
      sep[k]? := by
  have here : i < pieces.length := Nat.lt_of_succ_lt inside
  have size := sized i here
  rw [List.getElem?_eq_getElem here, Option.getD_some] at size
  have place : ∑ j ∈ Finset.range (i + 1), width j + sep.length * i + k =
      (∑ j ∈ Finset.range i, width j + sep.length * i) + (pieces[i].length + k) := by
    rw [Finset.sum_range_succ, size]
    ring
  rw [place, ← List.getElem?_drop, drop_intercalate sep sized here, List.drop_eq_getElem_cons here,
    List.drop_eq_getElem_cons inside, List.intercalate_cons_cons, List.append_assoc,
    List.getElem?_append_right (Nat.le_add_right _ _), Nat.add_sub_cancel_left,
    List.getElem?_append_left within]

theorem mem_intercalate {a : α} (member : a ∈ sep.intercalate pieces) :
    a ∈ sep ∨ ∃ piece ∈ pieces, a ∈ piece := by
  induction pieces with
  | nil => exact absurd member List.not_mem_nil
  | cons piece pieces ih =>
    cases pieces with
    | nil =>
      rw [List.intercalate_singleton] at member
      exact .inr ⟨piece, List.mem_cons_self, member⟩
    | cons next pieces =>
      rw [List.intercalate_cons_cons, List.append_assoc, List.mem_append, List.mem_append] at member
      rcases member with inPiece | inSep | inRest
      · exact .inr ⟨piece, List.mem_cons_self, inPiece⟩
      · exact .inl inSep
      · obtain inSep | ⟨other, inPieces, inOther⟩ := ih inRest
        · exact .inl inSep
        · exact .inr ⟨other, List.mem_cons_of_mem _ inPieces, inOther⟩

end Joining

/-- Lists one behind the other: each begins behind all those before it. -/
theorem getElem?_flatMap_take {α β : Type} {f : α → List β} {as : List α} {a : α} {r k : Nat}
    (found : as[r]? = some a) (within : k < (f a).length) :
    (as.flatMap f)[((as.take r).map fun a => (f a).length).sum + k]? = (f a)[k]? := by
  induction as generalizing r with
  | nil => cases found
  | cons first as ih =>
    cases r with
    | zero =>
      obtain rfl : first = a := Option.some.inj found
      rw [List.take_zero, List.map_nil, List.sum_nil, Nat.zero_add, List.flatMap_cons,
        List.getElem?_append_left within]
    | succ r =>
      rw [List.take_succ_cons, List.map_cons, List.sum_cons, List.flatMap_cons, Nat.add_assoc,
        List.getElem?_append_right (Nat.le_add_right _ _), Nat.add_sub_cancel_left]
      exact ih found

end LogSelect

import Mathlib.Order.OrderDual
import LogSelect.Proofs.Order.StableSort

/-!
Sorting in passes.

A stably sorted list is determined by two facts: the places of its members never fall, and the
members of one place stand as they did before.  Both facts pass through sorting again, so a sort by
several places is a sort by each of them, the last one first.  They also pass through reversing, so
a sort in the opposite direction is a reversed sort of the reversed list.
-/

namespace LogSelect

variable {α κ ι : Type} [LinearOrder κ] [LinearOrder ι] {place : α → κ} {xs ys : List α}

def sortByPlace (place : α → κ) (xs : List α) : List α :=
  xs.mergeSort fun a b => place a ≤ place b

/-- The members of a list that have the place of `x`. -/
def tiesWith (place : α → κ) (x : α) (xs : List α) : List α :=
  xs.filter fun a => place a = place x

theorem map_fst_stableSort_eq {order : α → α → Ordering}
    (compares : ∀ a ∈ xs, ∀ b ∈ xs, (order a b).Compares (place a) (place b)) :
    (stableSort order xs).map Prod.fst = sortByPlace place xs := by
  rw [stableSort_congr compares]
  exact List.mergeSort_zipIdx

theorem sortByPlace_congr {other : α → ι} (alike : ∀ a b, place a ≤ place b ↔ other a ≤ other b)
    (xs : List α) : sortByPlace place xs = sortByPlace other xs := by
  simp only [sortByPlace, alike]

theorem sortByPlace_const (k : κ) (xs : List α) : sortByPlace (fun _ => k) xs = xs := by
  apply List.mergeSort_of_pairwise
  apply List.pairwise_of_forall
  simp

theorem sortByPlace_perm (place : α → κ) (xs : List α) : (sortByPlace place xs).Perm xs :=
  List.mergeSort_perm _ _

/-! ## The two facts -/

theorem le_place_trans (place : α → κ) (a b c : α) (le : decide (place a ≤ place b) = true)
    (le' : decide (place b ≤ place c) = true) : decide (place a ≤ place c) = true :=
  decide_eq_true ((of_decide_eq_true le).trans (of_decide_eq_true le'))

theorem le_place_total (place : α → κ) (a b : α) :
    (decide (place a ≤ place b) || decide (place b ≤ place a)) = true := by
  rw [Bool.or_eq_true, decide_eq_true_iff, decide_eq_true_iff]
  exact le_total (place a) (place b)

theorem sortByPlace_pairwise (place : α → κ) (xs : List α) :
    (sortByPlace place xs).Pairwise fun a b => place a ≤ place b := by
  have sorted := List.pairwise_mergeSort (le_place_trans place) (le_place_total place) xs
  apply sorted.imp
  intro a b
  exact of_decide_eq_true

theorem tiesWith_sortByPlace (place : α → κ) (x : α) (xs : List α) :
    tiesWith place x (sortByPlace place xs) = tiesWith place x xs := by
  have tied : (tiesWith place x xs).Pairwise fun a b => decide (place a ≤ place b) = true := by
    apply List.pairwise_of_forall_mem_list
    intro a member b member'
    rw [tiesWith, List.mem_filter, decide_eq_true_iff] at member member'
    rw [member.2, member'.2]
    exact decide_eq_true le_rfl
  have kept : (tiesWith place x xs).Sublist (sortByPlace place xs) :=
    List.sublist_mergeSort (le_place_trans place) (le_place_total place) tied List.filter_sublist
  have inside := kept.filter fun a => place a = place x
  rw [tiesWith, List.filter_filter] at inside
  simp only [Bool.and_self] at inside
  symm
  apply inside.eq_of_length
  exact ((sortByPlace_perm place xs).filter _).length_eq.symm

/-- A list is determined by the two facts. -/
theorem eq_of_tiesWith (sorted : xs.Pairwise fun a b => place a ≤ place b)
    (sorted' : ys.Pairwise fun a b => place a ≤ place b)
    (ties : ∀ x, tiesWith place x xs = tiesWith place x ys) : xs = ys := by
  induction xs generalizing ys with
  | nil =>
    cases ys with
    | nil => rfl
    | cons y ys =>
      have none := ties y
      simp [tiesWith] at none
  | cons x xs ih =>
    cases ys with
    | nil =>
      have none := ties x
      simp [tiesWith] at none
    | cons y ys =>
      have inLeft : y ∈ x :: xs := by
        have member : y ∈ tiesWith place y (y :: ys) := by simp [tiesWith]
        rw [← ties y] at member
        exact List.mem_of_mem_filter member
      have inRight : x ∈ y :: ys := by
        have member : x ∈ tiesWith place x (x :: xs) := by simp [tiesWith]
        rw [ties x] at member
        exact List.mem_of_mem_filter member
      have le : place x ≤ place y := by
        rcases List.mem_cons.1 inLeft with rfl | behind
        · exact le_rfl
        · exact List.rel_of_pairwise_cons sorted behind
      have ge : place y ≤ place x := by
        rcases List.mem_cons.1 inRight with rfl | behind
        · exact le_rfl
        · exact List.rel_of_pairwise_cons sorted' behind
      have same : place y = place x := le_antisymm ge le
      have heads := ties x
      simp only [tiesWith, List.filter_cons, same, decide_true, if_true] at heads
      obtain rfl : x = y := (List.cons.inj heads).1
      rw [ih (List.pairwise_cons.1 sorted).2 (List.pairwise_cons.1 sorted').2]
      intro z
      have others := ties z
      by_cases isTie : place x = place z
      · simpa [tiesWith, List.filter_cons, isTie] using others
      · simpa [tiesWith, List.filter_cons, isTie] using others

theorem eq_sortByPlace (sorted : ys.Pairwise fun a b => place a ≤ place b)
    (ties : ∀ x, tiesWith place x ys = tiesWith place x xs) : ys = sortByPlace place xs := by
  apply eq_of_tiesWith sorted (sortByPlace_pairwise place xs)
  intro x
  rw [ties x, tiesWith_sortByPlace]

/-! ## Passes -/

theorem cons_le_cons_iff {x y : κ} {as bs : List κ} :
    x :: as ≤ y :: bs ↔ x < y ∨ x = y ∧ as ≤ bs := by
  rw [le_iff_lt_or_eq, le_iff_lt_or_eq, List.cons_lt_cons_iff, List.cons.injEq, or_assoc,
    and_or_left]

theorem tiesWith_comm (first : α → κ) (second : α → ι) (x : α) (xs : List α) :
    tiesWith first x (tiesWith second x xs) = tiesWith second x (tiesWith first x xs) :=
  List.filter_comm _ _ xs

theorem tiesWith_cons (first : α → κ) (others : α → List κ) (x : α) (xs : List α) :
    tiesWith (fun a => first a :: others a) x xs = tiesWith first x (tiesWith others x xs) := by
  rw [tiesWith, tiesWith, tiesWith, List.filter_filter]
  apply List.filter_congr
  intro a _
  apply Bool.eq_iff_iff.2
  simp only [Bool.and_eq_true, decide_eq_true_eq, List.cons.injEq]

/-- Sorting by several places is sorting by all but the first and then by the first. -/
theorem sortByPlace_cons (first : α → κ) (others : α → List κ) (xs : List α) :
    sortByPlace (fun a => first a :: others a) xs =
      sortByPlace first (sortByPlace others xs) := by
  symm
  apply eq_sortByPlace
  · apply List.pairwise_iff_forall_sublist.2
    intro a b inside
    have le := List.pairwise_iff_forall_sublist.1 (sortByPlace_pairwise first _) inside
    rw [cons_le_cons_iff]
    rcases le.lt_or_eq with less | tie
    · exact .inl less
    · have tied : [a, b].Sublist (tiesWith first a (sortByPlace others xs)) := by
        have filtered := inside.filter fun c => first c = first a
        rw [← tiesWith_sortByPlace]
        simpa [tiesWith, tie] using filtered
      have before := tied.trans List.filter_sublist
      exact .inr ⟨tie, List.pairwise_iff_forall_sublist.1 (sortByPlace_pairwise others xs) before⟩
  · intro x
    rw [tiesWith_cons, tiesWith_cons, tiesWith_comm, tiesWith_sortByPlace, tiesWith_comm,
      tiesWith_sortByPlace]

/-- Sorting in the opposite direction is sorting the reversed list and reversing the result. -/
theorem sortByPlace_toDual (place : α → κ) (xs : List α) :
    sortByPlace (fun a => OrderDual.toDual (place a)) xs =
      (sortByPlace place xs.reverse).reverse := by
  symm
  apply eq_sortByPlace
  · rw [List.pairwise_reverse]
    exact sortByPlace_pairwise place xs.reverse
  · intro x
    have ties := tiesWith_sortByPlace place x xs.reverse
    simp only [tiesWith, List.filter_reverse, EmbeddingLike.apply_eq_iff_eq] at ties ⊢
    rw [ties, List.reverse_reverse]

end LogSelect

import Mathlib.Data.List.Lex
import Mathlib.Data.List.Nodup
import Mathlib.Data.List.Pairwise
import Mathlib.Order.WithBot

/-!
Stable sorting, stated on members with their places in the list that is sorted.

Members that tie are told apart by their places, so a stably sorted list is determined by the
list and the order.
-/

namespace LogSelect

variable {α κ : Type} {order : α → α → Ordering} {xs : List α}

/-- A list is put in order, and members that tie keep their order. -/
structure IsStableSort (order : α → α → Ordering) (xs : List α) (sorted : List (α × Nat)) :
    Prop where
  perm : sorted.Perm xs.zipIdx
  ordered : sorted.Pairwise fun a b => order a.1 b.1 ≠ .gt
  stable : sorted.Pairwise fun a b => order a.1 b.1 = .eq → a.2 < b.2

/-- The members of a list in order, with their places in the list. -/
def stableSort (order : α → α → Ordering) (xs : List α) : List (α × Nat) :=
  xs.zipIdx.mergeSort (List.zipIdxLE fun a b => order a b != .gt)

theorem map_fst_stableSort (order : α → α → Ordering) (xs : List α) :
    (stableSort order xs).map Prod.fst = xs.mergeSort fun a b => order a b != .gt :=
  List.mergeSort_zipIdx

theorem stableSort_perm (order : α → α → Ordering) (xs : List α) :
    (stableSort order xs).Perm xs.zipIdx :=
  List.mergeSort_perm _ _

theorem map_fst_stableSort_perm (order : α → α → Ordering) (xs : List α) :
    ((stableSort order xs).map Prod.fst).Perm xs := by
  rw [map_fst_stableSort]
  exact List.mergeSort_perm _ _

theorem map_stableSort {β : Type} {order' : β → β → Ordering} {f : β → α} {zs : List β}
    (alike : ∀ a ∈ zs, ∀ b ∈ zs, order' a b = order (f a) (f b)) :
    (stableSort order' zs).map (Prod.map f id) = stableSort order (zs.map f) := by
  rw [stableSort, stableSort, List.zipIdx_map]
  apply List.map_mergeSort
  intro a member b member'
  have inside := List.fst_mem_of_mem_zipIdx member
  have inside' := List.fst_mem_of_mem_zipIdx member'
  simp only [List.zipIdxLE, alike _ inside _ inside', alike _ inside' _ inside, Prod.map_fst,
    Prod.map_snd, id]

section Alike

variable {related : α → α → Prop} {ys : List α} (lists : List.Forall₂ related xs ys)
  (alike : ∀ {a a' b b'}, related a b → related a' b' → order a a' = order b b')
include lists alike

/-- Lists whose members are compared alike are sorted at once, as a list of pairs. -/
theorem exists_stableSort_pairs :
    ∃ sorted : List ((α × α) × Nat), (∀ p ∈ sorted, related p.1.1 p.1.2) ∧
      stableSort order xs = sorted.map (Prod.map Prod.fst id) ∧
      stableSort order ys = sorted.map (Prod.map Prod.snd id) := by
  obtain ⟨sameLength, pairs⟩ := List.forall₂_iff_zip.1 lists
  let sorted := stableSort (fun p q : α × α => order p.1 q.1) (xs.zip ys)
  have firsts : sorted.map (Prod.map Prod.fst id) = stableSort order ((xs.zip ys).map Prod.fst) :=
    map_stableSort fun _ _ _ _ => rfl
  have seconds : sorted.map (Prod.map Prod.snd id) = stableSort order ((xs.zip ys).map Prod.snd) :=
    map_stableSort fun _ member _ member' => alike (pairs member) (pairs member')
  rw [List.map_fst_zip sameLength.le] at firsts
  rw [List.map_snd_zip sameLength.ge] at seconds
  refine ⟨sorted, fun p member => ?_, firsts.symm, seconds.symm⟩
  exact pairs (List.fst_mem_of_mem_zipIdx ((stableSort_perm _ _).subset member))

theorem forall₂_stableSort :
    List.Forall₂ related ((stableSort order xs).map Prod.fst)
      ((stableSort order ys).map Prod.fst) := by
  obtain ⟨sorted, pairs, firsts, seconds⟩ := exists_stableSort_pairs lists alike
  rw [firsts, seconds, List.map_map, List.map_map, List.forall₂_map_left_iff,
    List.forall₂_map_right_iff, List.forall₂_same]
  exact pairs

theorem map_snd_stableSort :
    (stableSort order xs).map Prod.snd = (stableSort order ys).map Prod.snd := by
  obtain ⟨sorted, -, firsts, seconds⟩ := exists_stableSort_pairs lists alike
  rw [firsts, seconds, List.map_map, List.map_map]
  rfl

end Alike

theorem stableSort_pairwise_ne (order : α → α → Ordering) (xs : List α) :
    (stableSort order xs).Pairwise fun a b => a.2 ≠ b.2 := by
  have places : (xs.zipIdx.map Prod.snd).Nodup := by
    rw [List.zipIdx_map_snd]
    exact List.nodup_range'
  rw [(stableSort_perm order xs).pairwise_iff Ne.symm]
  exact List.pairwise_map.1 places

section Places

variable [LinearOrder κ] {place : α → κ}

theorem stableSort_congr
    (compares : ∀ a ∈ xs, ∀ b ∈ xs, (order a b).Compares (place a) (place b)) :
    stableSort order xs = xs.zipIdx.mergeSort (List.zipIdxLE fun a b => place a ≤ place b) := by
  have agree : ∀ a ∈ xs.zipIdx, ∀ b ∈ xs.zipIdx,
      List.zipIdxLE (fun a b => order a b != .gt) a b =
        List.zipIdxLE (fun a b => place a ≤ place b) (id a) (id b) := by
    have same : ∀ a ∈ xs, ∀ b ∈ xs, (order a b != .gt) = decide (place a ≤ place b) := by
      intro a member b member'
      rw [Bool.eq_iff_iff, bne_iff_ne, decide_eq_true_iff]
      exact (compares a member b member').ne_gt
    intro a member b member'
    have inside := List.fst_mem_of_mem_zipIdx member
    have inside' := List.fst_mem_of_mem_zipIdx member'
    simp only [List.zipIdxLE, same _ inside _ inside', same _ inside' _ inside, id]
  have mapped := List.map_mergeSort agree
  rwa [List.map_id, List.map_id] at mapped

theorem stableSort_pairwise
    (compares : ∀ a ∈ xs, ∀ b ∈ xs, (order a b).Compares (place a) (place b)) :
    (stableSort order xs).Pairwise fun a b =>
      order a.1 b.1 ≠ .gt ∧ (order a.1 b.1 = .eq → a.2 < b.2) := by
  -- The order itself need not be transitive outside the list, the one of places always is.
  have byPlaces : (stableSort order xs).Pairwise fun a b =>
      List.zipIdxLE (fun a b => decide (place a ≤ place b)) a b = true := by
    rw [stableSort_congr compares]
    refine List.pairwise_mergeSort (List.zipIdxLE_trans ?_) (List.zipIdxLE_total ?_) _
    · intro a b c le le'
      exact decide_eq_true ((of_decide_eq_true le).trans (of_decide_eq_true le'))
    · intro a b
      rw [Bool.or_eq_true, decide_eq_true_iff, decide_eq_true_iff]
      exact le_total (place a) (place b)
  refine (byPlaces.and (stableSort_pairwise_ne order xs)).imp_of_mem ?_
  rintro a b member member' ⟨before, apart⟩
  have compared := compares a.1 (List.fst_mem_of_mem_zipIdx ((stableSort_perm _ _).subset member))
    b.1 (List.fst_mem_of_mem_zipIdx ((stableSort_perm _ _).subset member'))
  rw [compared.ne_gt, compared.eq_eq]
  unfold List.zipIdxLE at before
  split at before
  · rename_i le
    refine ⟨of_decide_eq_true le, ?_⟩
    intro tie
    rw [if_pos (decide_eq_true tie.ge)] at before
    exact Nat.lt_of_le_of_ne (of_decide_eq_true before) apart
  · cases before

/-- Sorting is the one way of putting a list in order that keeps ties. -/
theorem isStableSort_iff
    (compares : ∀ a ∈ xs, ∀ b ∈ xs, (order a b).Compares (place a) (place b))
    {sorted : List (α × Nat)} :
    IsStableSort order xs sorted ↔ sorted = stableSort order xs := by
  have sorts := stableSort_pairwise compares
  constructor
  · rintro ⟨perm, ordered, stable⟩
    refine List.Perm.eq_of_pairwise ?_ (ordered.and stable) sorts
      (perm.trans (stableSort_perm order xs).symm)
    rintro a b member member' ⟨le, tie⟩ ⟨ge, tie'⟩
    have inside := List.fst_mem_of_mem_zipIdx (perm.subset member)
    have inside' := List.fst_mem_of_mem_zipIdx ((stableSort_perm _ _).subset member')
    have compared := compares a.1 inside b.1 inside'
    have compared' := compares b.1 inside' a.1 inside
    have same := le_antisymm (compared.ne_gt.1 le) (compared'.ne_gt.1 ge)
    have before := tie (compared.eq_eq.2 same)
    have behind := tie' (compared'.eq_eq.2 same.symm)
    omega
  · rintro rfl
    exact ⟨stableSort_perm order xs, sorts.imp And.left, sorts.imp And.right⟩

theorem stableSort_pairwise_le
    (compares : ∀ a ∈ xs, ∀ b ∈ xs, (order a b).Compares (place a) (place b)) :
    ((stableSort order xs).map Prod.fst).Pairwise fun a b => place a ≤ place b := by
  rw [List.pairwise_map]
  apply (stableSort_pairwise compares).imp_of_mem
  intro a b member member' before
  have inside := List.fst_mem_of_mem_zipIdx ((stableSort_perm _ _).subset member)
  have inside' := List.fst_mem_of_mem_zipIdx ((stableSort_perm _ _).subset member')
  exact (compares a.1 inside b.1 inside').ne_gt.1 before.1

theorem stableSort_perm_of_perm {ys : List α} (perm : xs.Perm ys) :
    ((stableSort order xs).map Prod.fst).Perm ((stableSort order ys).map Prod.fst) :=
  (map_fst_stableSort_perm order xs).trans (perm.trans (map_fst_stableSort_perm order ys).symm)

section Rearranged

variable {ys : List α} (perm : xs.Perm ys)
  (compares : ∀ a ∈ xs, ∀ b ∈ xs, (order a b).Compares (place a) (place b))
include perm compares

theorem stableSort_pairwise_le_of_perm :
    ((stableSort order ys).map Prod.fst).Pairwise fun a b => place a ≤ place b :=
  stableSort_pairwise_le fun a member b member' =>
    compares a (perm.symm.subset member) b (perm.symm.subset member')

/-- However the members are arranged, those of one place come to stand at the same indices. -/
theorem forall₂_stableSort_of_perm :
    List.Forall₂ (fun a b => place a = place b) ((stableSort order xs).map Prod.fst)
      ((stableSort order ys).map Prod.fst) := by
  have places : ((stableSort order xs).map Prod.fst).map place =
      ((stableSort order ys).map Prod.fst).map place := by
    have sorted := List.pairwise_map.2 (stableSort_pairwise_le compares)
    have sorted' := List.pairwise_map.2 (stableSort_pairwise_le_of_perm perm compares)
    apply List.Perm.eq_of_pairwise _ sorted sorted' ((stableSort_perm_of_perm perm).map place)
    intro _ _ _ _
    exact le_antisymm
  rwa [← List.forall₂_eq_eq_eq, List.forall₂_map_left_iff, List.forall₂_map_right_iff] at places

theorem map_fst_stableSort_eq_of_perm (apart : xs.Pairwise fun a b => place a ≠ place b) :
    (stableSort order xs).map Prod.fst = (stableSort order ys).map Prod.fst := by
  apply List.Perm.eq_of_pairwise _ (stableSort_pairwise_le compares)
    (stableSort_pairwise_le_of_perm perm compares) (stableSort_perm_of_perm perm)
  intro a b member member' le ge
  have inside := (map_fst_stableSort_perm order xs).subset member
  have inside' := perm.symm.subset ((map_fst_stableSort_perm order ys).subset member')
  have symmetric : Std.Symm fun a b => place a ≠ place b := ⟨fun _ _ => Ne.symm⟩
  by_contra differ
  exact apart.forall inside inside' differ (le_antisymm le ge)

end Rearranged

end Places

end LogSelect

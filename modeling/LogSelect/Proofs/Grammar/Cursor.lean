import Mathlib.Logic.Relation
import LogSelect.Query.Walk

/-!
Walks that look at tokens inside the list only, and take each token once and in order, the end mark
excepted.
-/

namespace LogSelect.Query

/-- A step that looks inside the list, or takes a token in front of the end. -/
inductive SafeStep (tokens : TokenList) : Cursor → Cursor → Prop where
  | look {index events} : index ≤ tokens.front.length →
      SafeStep tokens ⟨index, events⟩ ⟨index, events ++ [.look index]⟩
  | take {index events} : index < tokens.front.length →
      SafeStep tokens ⟨index, events⟩ ⟨index + 1, events ++ [.take index]⟩

def Cursor.taken (cursor : Cursor) : List Nat :=
  cursor.events.filterMap fun
    | .take index => some index
    | .look _ => none

/-- All looks lie inside the list, and the tokens from `start` up to the index have been taken,
each once and in order. -/
structure Orderly (tokens : TokenList) (start : Nat) (cursor : Cursor) : Prop where
  inside : cursor.index ≤ tokens.front.length
  forward : start ≤ cursor.index
  looks : ∀ index, .look index ∈ cursor.events → index ≤ tokens.front.length
  takes : cursor.taken = List.range' start (cursor.index - start)

variable {tokens : TokenList} {start : Nat} {cursor cursor' : Cursor}

theorem orderly_start (inside : start ≤ tokens.front.length) :
    Orderly tokens start ⟨start, []⟩ where
  inside := inside
  forward := Nat.le_refl start
  looks _ member := by cases member
  takes := by simp [Cursor.taken]

namespace Orderly

theorem looks_append {event : Event} (orderly : Orderly tokens start cursor)
    (bound : ∀ index, event = .look index → index ≤ tokens.front.length) :
    ∀ index, .look index ∈ cursor.events ++ [event] → index ≤ tokens.front.length := by
  intro index member
  rcases List.mem_append.1 member with earlier | new
  · exact orderly.looks index earlier
  · exact bound index (List.mem_singleton.1 new).symm

theorem takes_append {index : Nat} {events : List Event}
    (orderly : Orderly tokens start ⟨index, events⟩) :
    (Cursor.mk (index + 1) (events ++ [.take index])).taken =
      List.range' start (index + 1 - start) := by
  have size : index + 1 - start = index - start + 1 := Nat.sub_add_comm orderly.forward
  have next : start + (index - start) = index := Nat.add_sub_cancel' orderly.forward
  have earlier : (Cursor.mk index events).taken = List.range' start (index - start) :=
    orderly.takes
  simp only [Cursor.taken] at earlier ⊢
  rw [List.filterMap_append, earlier, size, List.range'_concat, Nat.one_mul, next]
  rfl

theorem not_taken (orderly : Orderly tokens start cursor) :
    .take tokens.front.length ∉ cursor.events := by
  intro member
  have taken : tokens.front.length ∈ cursor.taken :=
    List.mem_filterMap.2 ⟨_, member, rfl⟩
  rw [orderly.takes, List.mem_range'_1, Nat.add_sub_cancel' orderly.forward] at taken
  exact absurd orderly.inside (Nat.not_le.2 taken.2)

end Orderly

theorem SafeStep.orderly (step : SafeStep tokens cursor cursor')
    (orderly : Orderly tokens start cursor) : Orderly tokens start cursor' := by
  cases step with
  | @look index events bound =>
    refine ⟨bound, orderly.forward, orderly.looks_append ?_, ?_⟩
    · rintro _ ⟨⟩
      exact bound
    · simpa [Cursor.taken] using orderly.takes
  | @take index events bound =>
    refine ⟨bound, Nat.le_succ_of_le orderly.forward, orderly.looks_append ?_,
      orderly.takes_append⟩
    rintro _ ⟨⟩

abbrev Proceeds (tokens : TokenList) : Cursor → Cursor → Prop :=
  Relation.ReflTransGen (SafeStep tokens)

theorem Proceeds.orderly (proceeds : Proceeds tokens cursor cursor')
    (orderly : Orderly tokens start cursor) : Orderly tokens start cursor' := by
  induction proceeds with
  | refl => exact orderly
  | tail _ step ih => exact step.orderly ih

end LogSelect.Query

import LogSelect.Proofs.Grammar.Compositional

/-!
How far the readings look.

A reading has looked at the tokens it took and at the first one it left, and at no others: whatever
is put behind that token, the reading does the same.  This holds of the readings of single tokens,
and sequences, choices by the first token and chains inherit it.
-/

namespace LogSelect.Query

section Settled

variable {α β : Type} {read other : List Token → Outcome α} {ts : List Token}

def leaving (result : Except Complaint α) (rest : List Token) : Outcome α :=
  match result with
  | .ok value => .ok (value, rest)
  | .error complaint => .error ⟨complaint, rest⟩

/-- What is read from `ts` is settled by the tokens up to the first one that is left. -/
def SettledAt (read : List Token → Outcome α) (ts : List Token) : Prop :=
  ∀ result rest, read ts = leaving result rest →
    ∃ us, ts = us ++ rest ∧
      ∀ t ∈ rest.head?, ∀ others, read (us ++ t :: others) = leaving result (t :: others)

theorem settledAt_ok (value : α) (ts : List Token) : SettledAt (fun ts => .ok (value, ts)) ts := by
  intro result rest same
  cases result with
  | error complaint => cases same
  | ok value =>
    cases same
    exact ⟨[], rfl, fun _ _ _ => rfl⟩

theorem settledAt_error (complaint : Complaint) (ts : List Token) :
    SettledAt (α := α) (fun ts => .error ⟨complaint, ts⟩) ts := by
  intro result rest same
  cases result with
  | ok value => cases same
  | error complaint =>
    cases same
    exact ⟨[], rfl, fun _ _ _ => rfl⟩

/-- The reading takes the first token or complains about it, and does not look behind it. -/
def ReadsOne (read : List Token → Outcome α) : Prop :=
  (∃ complaint, read [] = .error ⟨complaint, []⟩) ∧
    ∀ t, (∃ value, ∀ us, read (t :: us) = .ok (value, us)) ∨
      ∃ complaint, ∀ us, read (t :: us) = .error ⟨complaint, t :: us⟩

theorem ReadsOne.settledAt (one : ReadsOne read) (ts : List Token) : SettledAt read ts := by
  intro result rest same
  cases ts with
  | nil =>
    obtain ⟨complaint, fails⟩ := one.1
    rw [fails] at same
    cases result with
    | ok value => cases same
    | error complaint =>
      cases same
      exact ⟨[], rfl, by simp⟩
  | cons t us =>
    rcases one.2 t with ⟨value, takes⟩ | ⟨complaint, fails⟩
    · rw [takes] at same
      cases result with
      | error complaint => cases same
      | ok value =>
        cases same
        refine ⟨[t], rfl, ?_⟩
        intro u _ others
        exact takes (u :: others)
    · rw [fails] at same
      cases result with
      | ok value => cases same
      | error complaint =>
        cases same
        refine ⟨[], rfl, ?_⟩
        rintro _ ⟨⟩ others
        exact fails others

theorem ReadsOne.rest_eq (one : ReadsOne read) {failure : Failure}
    (fails : read ts = .error failure) : failure.rest = ts := by
  cases ts with
  | nil =>
    obtain ⟨complaint, same⟩ := one.1
    cases same.symm.trans fails
    rfl
  | cons t us =>
    rcases one.2 t with ⟨value, same⟩ | ⟨complaint, same⟩
    · cases (same us).symm.trans fails
    · cases (same us).symm.trans fails
      rfl

theorem front?_append_cons (us : List Token) (t : Token) (more others : List Token) :
    front? (us ++ t :: more) = front? (us ++ t :: others) := by
  cases us <;> rfl

theorem SettledAt.bind {next : α × List Token → Outcome β} (first : SettledAt read ts)
    (second : ∀ a rest, read ts = .ok (a, rest) → SettledAt (fun rest => next (a, rest)) rest) :
    SettledAt (fun ts => (read ts).bind next) ts := by
  intro result rest same
  dsimp only at same
  cases isRead : read ts with
  | error failure =>
    rw [isRead] at same
    obtain ⟨us, split, again⟩ := first (.error failure.complaint) failure.rest isRead
    cases result with
    | ok value => cases same
    | error complaint =>
      cases same
      refine ⟨us, split, ?_⟩
      intro t front others
      dsimp only
      rw [again t front others]
      rfl
  | ok pair =>
    obtain ⟨a, middle⟩ := pair
    rw [isRead] at same
    obtain ⟨us, rfl, again⟩ := first (.ok a) middle isRead
    obtain ⟨vs, rfl, further⟩ := second a middle isRead result rest same
    refine ⟨us ++ vs, by simp, ?_⟩
    intro t front others
    obtain ⟨more, rfl⟩ := List.head?_eq_some_iff.1 front
    have left : ∃ u, (vs ++ t :: more).head? = some u ∧ ∃ tail, vs ++ t :: others = u :: tail := by
      cases vs with
      | nil => exact ⟨t, rfl, others, rfl⟩
      | cons u vs => exact ⟨u, rfl, vs ++ t :: others, rfl⟩
    obtain ⟨u, isHead, tail, split⟩ := left
    have readFirst := again u isHead tail
    dsimp only
    rw [List.append_assoc, split, readFirst, ← split]
    exact further t front others

theorem SettledAt.ite {body : Token.Body}
    (present : front? ts = some body → SettledAt read ts)
    (absent : front? ts ≠ some body → SettledAt other ts) :
    SettledAt (fun ts => if front? ts = some body then read ts else other ts) ts := by
  intro result rest same
  dsimp only at same
  by_cases front : front? ts = some body
  · rw [if_pos front] at same
    obtain ⟨us, rfl, again⟩ := present front result rest same
    refine ⟨us, rfl, ?_⟩
    intro t isHead others
    obtain ⟨more, rfl⟩ := List.head?_eq_some_iff.1 isHead
    rw [front?_append_cons us t more others] at front
    dsimp only
    rw [if_pos front, again t isHead others]
  · rw [if_neg front] at same
    obtain ⟨us, rfl, again⟩ := absent front result rest same
    refine ⟨us, rfl, ?_⟩
    intro t isHead others
    obtain ⟨more, rfl⟩ := List.head?_eq_some_iff.1 isHead
    rw [front?_append_cons us t more others] at front
    dsimp only
    rw [if_neg front, again t isHead others]

theorem SettledAt.tail {t : Token} (settled : SettledAt read ts) :
    SettledAt (fun ts => read ts.tail) (t :: ts) := by
  intro result rest same
  obtain ⟨us, rfl, again⟩ := settled result rest same
  exact ⟨t :: us, rfl, again⟩

end Settled

/-! ## Single tokens -/

theorem readsOne_expect (body : Token.Body) (complaint : Complaint) :
    ReadsOne fun ts => outcome (expect body complaint ts) := by
  refine ⟨⟨complaint, rfl⟩, ?_⟩
  intro t
  by_cases same : t.body = body
  · exact .inl ⟨(), fun us => by simp [expect, same]⟩
  · exact .inr ⟨complaint, fun us => by simp [expect, same]⟩

theorem readsOne_expectName (complaint : Complaint) :
    ReadsOne fun ts => outcome (expectName complaint ts) := by
  refine ⟨⟨complaint, rfl⟩, ?_⟩
  rintro ⟨body, lexeme, pos⟩
  cases body with
  | name name => exact .inl ⟨name, fun _ => rfl⟩
  | _ => exact .inr ⟨complaint, fun _ => rfl⟩

theorem readsOne_operand (role : Role) : ReadsOne fun ts => outcome (operand role ts) := by
  refine ⟨⟨.noOperand role, rfl⟩, ?_⟩
  rintro ⟨body, lexeme, pos⟩
  cases body with
  | name name => exact .inl ⟨.column name, fun _ => rfl⟩
  | text s => exact .inl ⟨.ofText s, fun _ => rfl⟩
  | number n => exact .inl ⟨.literal (.number n) lexeme, fun _ => rfl⟩
  | star => exact .inr ⟨.wildcardOperand role, fun _ => rfl⟩
  | _ => exact .inr ⟨.noOperand role, fun _ => rfl⟩

theorem readsOne_operator : ReadsOne operator := by
  refine ⟨⟨.noOperator, rfl⟩, ?_⟩
  rintro ⟨body, lexeme, pos⟩
  cases body with
  | op op => exact .inl ⟨op, fun _ => rfl⟩
  | _ => exact .inr ⟨.noOperator, fun _ => rfl⟩

theorem readsOne_count (clause : Clause) : ReadsOne fun ts => outcome (count clause ts) := by
  refine ⟨⟨.badCount clause, rfl⟩, ?_⟩
  rintro ⟨body, lexeme, pos⟩
  cases body with
  | number n =>
    cases n with
    | int n =>
      by_cases negative : n < 0
      · exact .inr ⟨.badCount clause, fun us => by simp [count, negative]⟩
      · exact .inl ⟨n, fun us => by simp [count, negative]⟩
    | real x => exact .inr ⟨.badCount clause, fun _ => rfl⟩
  | _ => exact .inr ⟨.badCount clause, fun _ => rfl⟩

/-! ## Queries -/

theorem settledAt_compositional : Compositional SettledAt where
  ok := settledAt_ok
  error := settledAt_error
  expect body complaint := (readsOne_expect body complaint).settledAt
  expectName complaint := (readsOne_expectName complaint).settledAt
  operand role := (readsOne_operand role).settledAt
  operator := readsOne_operator.settledAt
  count clause := (readsOne_count clause).settledAt
  bind := SettledAt.bind
  ite := SettledAt.ite
  tail := SettledAt.tail

/-- Whether and how a list of tokens is read is settled by the tokens up to the first one that is
left. -/
theorem read_settled (ts : List Token) : SettledAt read ts :=
  settledAt_compositional.read ts

end LogSelect.Query

import LogSelect.Proofs.Grammar.Compositional

/-!
Readings do not look at places.

Two lists of tokens that differ in the places of the tokens only are read alike: as the same value,
or with the same complaint about the same token.  This is a property of the readings of single
tokens that sequences and choices keep.
-/

namespace LogSelect

def Token.unplaced (t : Token) : Token :=
  { t with pos := .start }

@[simp]
theorem Token.body_unplaced (t : Token) : t.unplaced.body = t.body := rfl

def Token.SameButPlaces (ts us : List Token) : Prop :=
  ts.map Token.unplaced = us.map Token.unplaced

namespace Query

section Places

variable {α β : Type} {read other : List Token → Outcome α} {ts : List Token}

@[simp]
theorem front?_unplaced (ts : List Token) : front? (ts.map Token.unplaced) = front? ts := by
  cases ts <;> rfl

def leftUnplaced : Outcome α → Outcome α
  | .ok (value, rest) => .ok (value, rest.map Token.unplaced)
  | .error failure => .error ⟨failure.complaint, failure.rest.map Token.unplaced⟩

/-- Without their places the tokens are read alike. -/
def BlindAt (read : List Token → Outcome α) (ts : List Token) : Prop :=
  read (ts.map Token.unplaced) = leftUnplaced (read ts)

theorem BlindAt.bind {next : α × List Token → Outcome β} (first : BlindAt read ts)
    (second : ∀ a rest, read ts = .ok (a, rest) → BlindAt (fun rest => next (a, rest)) rest) :
    BlindAt (fun ts => (read ts).bind next) ts := by
  unfold BlindAt at first ⊢
  dsimp only
  rw [first]
  cases isRead : read ts with
  | error failure => rfl
  | ok pair => exact second pair.1 pair.2 isRead

theorem BlindAt.ite {body : Token.Body} (present : front? ts = some body → BlindAt read ts)
    (absent : front? ts ≠ some body → BlindAt other ts) :
    BlindAt (fun ts => if front? ts = some body then read ts else other ts) ts := by
  unfold BlindAt
  dsimp only
  rw [front?_unplaced]
  by_cases front : front? ts = some body
  · rw [if_pos front, if_pos front, present front]
  · rw [if_neg front, if_neg front, absent front]

theorem blindAt_expect (body : Token.Body) (complaint : Complaint) (ts : List Token) :
    BlindAt (fun ts => outcome (expect body complaint ts)) ts := by
  cases ts with
  | nil => rfl
  | cons t ts =>
    change outcome (expect body complaint (t.unplaced :: ts.map Token.unplaced)) =
      leftUnplaced (outcome (expect body complaint (t :: ts)))
    by_cases same : t.body = body <;> simp [expect, same, outcome, Except.map, leftUnplaced]

theorem blindAt_expectName (complaint : Complaint) (ts : List Token) :
    BlindAt (fun ts => outcome (expectName complaint ts)) ts := by
  rcases ts with _ | ⟨⟨body, lexeme, pos⟩, ts⟩
  · rfl
  · cases body <;> rfl

theorem blindAt_operand (role : Role) (ts : List Token) :
    BlindAt (fun ts => outcome (operand role ts)) ts := by
  rcases ts with _ | ⟨⟨body, lexeme, pos⟩, ts⟩
  · rfl
  · cases body <;> rfl

theorem blindAt_operator (ts : List Token) : BlindAt operator ts := by
  rcases ts with _ | ⟨⟨body, lexeme, pos⟩, ts⟩
  · rfl
  · cases body <;> rfl

theorem blindAt_count (clause : Clause) (ts : List Token) :
    BlindAt (fun ts => outcome (count clause ts)) ts := by
  rcases ts with _ | ⟨⟨body, lexeme, pos⟩, ts⟩
  · rfl
  cases body with
  | number n =>
    cases n with
    | int n =>
      change outcome (count clause (⟨.number (.int n), lexeme, .start⟩ :: ts.map Token.unplaced)) =
        leftUnplaced (outcome (count clause (⟨.number (.int n), lexeme, pos⟩ :: ts)))
      by_cases negative : n < 0 <;>
        simp [count, negative, outcome, Except.map, leftUnplaced, Token.unplaced]
    | real x => rfl
  | _ => rfl

end Places

theorem blindAt_compositional : Compositional BlindAt where
  ok _ _ := rfl
  error _ _ := rfl
  expect := blindAt_expect
  expectName := blindAt_expectName
  operand := blindAt_operand
  operator := blindAt_operator
  count := blindAt_count
  bind := BlindAt.bind
  ite := BlindAt.ite
  tail blind := blind

/-- What two lists of tokens come to that are the same but for the places of the tokens. -/
inductive ReadAlike : Except Failure Query → Except Failure Query → Prop where
  | query {query} : ReadAlike (.ok query) (.ok query)
  | failure {complaint ts us} : Token.SameButPlaces ts us →
      ReadAlike (.error ⟨complaint, ts⟩) (.error ⟨complaint, us⟩)

/-- Tokens at other places are the same query, or fail with the same complaint in front of the same
tokens. -/
theorem readAlike_of_sameButPlaces {ts us : List Token} (same : Token.SameButPlaces ts us) :
    ReadAlike (ofTokens ts) (ofTokens us) := by
  have alike : leftUnplaced (read ts) = leftUnplaced (read us) := by
    rw [← blindAt_compositional.read ts, same, blindAt_compositional.read us]
  unfold ofTokens
  cases first : read ts with
  | ok pair =>
    cases second : read us with
    | ok pair' =>
      simp only [first, second, leftUnplaced, Except.ok.injEq, Prod.mk.injEq] at alike
      rw [Except.map, Except.map, alike.1]
      exact .query
    | error failure => simp [first, second, leftUnplaced] at alike
  | error failure =>
    cases second : read us with
    | ok pair => simp [first, second, leftUnplaced] at alike
    | error failure' =>
      simp only [first, second, leftUnplaced, Except.error.injEq, Failure.mk.injEq] at alike
      obtain ⟨complaint, rest⟩ := failure
      obtain ⟨complaint', rest'⟩ := failure'
      obtain ⟨rfl, rests⟩ : complaint = complaint' ∧ _ := alike
      exact .failure rests

end Query

end LogSelect

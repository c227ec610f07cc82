import Mathlib.Data.List.Basic
import LogSelect.Proofs.Grammar.Exactness
import LogSelect.Proofs.Grammar.Viability
import LogSelect.Query.Error

/-!
A failure is about the first token that no query can have there.

The tokens in front of it begin a query, by the completions, and no query begins with them and the
token itself, since a reading does not look behind the token it complains about.
-/

namespace LogSelect.Query

/-! ## The end of the text stands in no part of a query -/

def Inner (ts : List Token) : Prop :=
  ∀ t ∈ ts, t.body ≠ .stop

@[simp]
theorem inner_nil : Inner [] :=
  fun _ member => absurd member List.not_mem_nil

@[simp]
theorem inner_cons {t : Token} {ts : List Token} :
    Inner (t :: ts) ↔ t.body ≠ .stop ∧ Inner ts :=
  List.forall_mem_cons

@[simp]
theorem inner_append {ts us : List Token} : Inner (ts ++ us) ↔ Inner ts ∧ Inner us :=
  List.forall_mem_append

theorem IsOperandToken.ne_stop {t : Token} {a : Term} (operandToken : IsOperandToken t a) :
    t.body ≠ .stop := by
  cases operandToken <;> simp [*]

theorem Forms.inner {rank : Rank} {ts : List Token} {p : Term} (forms : Forms rank ts p) :
    Inner ts := by
  induction forms with
  | conjunction _ ih | negation _ ih | comparison _ ih => exact ih
  | or _ isOr _ ihLeft ihRight => simp [*]
  | and _ isAnd _ ihLeft ihRight => simp [*]
  | not isNot _ ih => simp [*]
  | group opens _ closes ih => simp [*]
  | compare left isOp right => simp [left.ne_stop, isOp, right.ne_stop]

theorem FormsItem.inner {ts : List Token} {item : SelectItem} (forms : FormsItem ts item) :
    Inner ts := by
  cases forms with
  | plain operandToken => simp [operandToken.ne_stop]
  | labelled operandToken isLabel isName => simp [operandToken.ne_stop, isLabel, isName]

theorem FormsKey.inner {ts : List Token} {item : OrderItem} (forms : FormsKey ts item) :
    Inner ts := by
  cases forms with
  | plain operandToken => simp [operandToken.ne_stop]
  | ascending operandToken isWord | descending operandToken isWord =>
    simp [operandToken.ne_stop, isWord]

theorem FormsList.inner {α : Type} {Part : List Token → α → Prop} {ts : List Token}
    {values : List α} (parts : ∀ {ts a}, Part ts a → Inner ts) (forms : FormsList Part ts values) :
    Inner ts := by
  induction forms with
  | one part => exact parts part
  | more part isComma _ ih => simp [parts part, isComma, ih]

theorem FormsSelection.inner {ts : List Token} {items : List SelectItem}
    (forms : FormsSelection ts items) : Inner ts := by
  cases forms with
  | all isStar => simp [isStar]
  | items forms => exact forms.inner FormsItem.inner

theorem FormsSource.inner {ts : List Token} (forms : FormsSource ts) : Inner ts := by
  cases forms with
  | absent => exact inner_nil
  | named isFrom isName => simp [isFrom, isName]

theorem FormsFilter.inner {ts : List Token} {filter : Option Term}
    (forms : FormsFilter ts filter) : Inner ts := by
  cases forms with
  | absent => exact inner_nil
  | given isWhere forms => simp [isWhere, forms.inner]

theorem FormsOrder.inner {ts : List Token} {keys : List OrderItem} (forms : FormsOrder ts keys) :
    Inner ts := by
  cases forms with
  | absent => exact inner_nil
  | given isOrder isBy forms => simp [isOrder, isBy, forms.inner FormsKey.inner]

theorem FormsCount.inner {clause : Clause} {ts : List Token} {count : Option Int}
    (forms : FormsCount clause ts count) : Inner ts := by
  cases forms with
  | absent => exact inner_nil
  | given isWord isNumber _ => simp [isWord, isNumber]

theorem FormsEnd.inner {ts : List Token} (forms : FormsEnd ts) : Inner ts := by
  cases forms with
  | absent => exact inner_nil
  | semicolon isSemicolon => simp [isSemicolon]

theorem Derives.inner {ts : List Token} {query : Query} (derives : Derives ts query) :
    Inner ts := by
  obtain ⟨isSelect, select, source, filter, order, limit, offset, semi⟩ := derives
  simp [isSelect, select.inner, source.inner, filter.inner, order.inner, limit.inner,
    offset.inner, semi.inner]

/-! ## Failures -/

theorem ofTokens_eq_error {ts : List Token} {failure : Failure} :
    ofTokens ts = .error failure ↔ read ts = .error failure := by
  unfold ofTokens
  cases read ts with
  | error failure' => simp [Except.map]
  | ok result => simp [Except.map]

/-- Where a reading fails, the tokens it took begin a query, and the token it complains about is
the same whatever follows it. -/
theorem read_fails {ts : List Token} {failure : Failure} (fails : read ts = .error failure) :
    ∃ us, ts = us ++ failure.rest ∧ (∃ vs query, Derives (us ++ vs) query) ∧
      ∀ t ∈ failure.rest.head?, ∀ others,
        read (us ++ t :: others) = .error ⟨failure.complaint, t :: others⟩ := by
  obtain ⟨us, vs, query, split, derives⟩ := read_completes ts failure fails
  obtain ⟨us', split', again⟩ := read_settled ts (.error failure.complaint) failure.rest fails
  obtain rfl : us = us' := List.append_cancel_right (split.symm.trans split')
  exact ⟨us, split, ⟨vs, query, derives⟩, again⟩

/-- A failure is about the earliest token it can be about: what stands in front of the token begins
a query, and nothing that begins with the token as well is one. -/
theorem ofTokens_fails_earliest {ts : List Token} {stop : Token} {failure : Failure}
    (isStop : stop.body = .stop) (fails : ofTokens (ts ++ [stop]) = .error failure) :
    ∃ k ≤ ts.length, failure.rest = (ts ++ [stop]).drop k ∧
      (∃ t, (ts ++ [stop])[k]? = some t ∧
        ∀ last, failure.toError last = .grammar failure.complaint t) ∧
      (∃ us query, (∀ u ∈ us, u.body ≠ .stop) ∧
        ∀ stop', stop'.body = .stop → ofTokens (ts.take k ++ us ++ [stop']) = .ok query) ∧
      (k < ts.length → ∀ others query, ofTokens (ts.take (k + 1) ++ others) ≠ .ok query) := by
  obtain ⟨us, split, ⟨vs, query, derives⟩, again⟩ := read_fails (ofTokens_eq_error.1 fails)
  have innerBoth := inner_append.1 derives.inner
  obtain ⟨t, rest, isRest⟩ : ∃ t rest, failure.rest = t :: rest := by
    cases left : failure.rest with
    | cons t rest => exact ⟨t, rest, rfl⟩
    | nil =>
      rw [left, List.append_nil] at split
      have innerStop : Inner [stop] := (inner_append.1 (split ▸ innerBoth.1)).2
      exact absurd isStop (innerStop stop List.mem_cons_self)
  rw [isRest] at split
  have bound : us.length ≤ ts.length := by
    have lengths := congrArg List.length split
    simp only [List.length_append, List.length_cons, List.length_nil] at lengths
    omega
  have taken : ts.take us.length = us := by
    rw [← List.take_append_of_le_length bound, split, List.take_left]
  have offending : (ts ++ [stop])[us.length]? = some t := by
    rw [split, List.getElem?_append_right (Nat.le_refl _), Nat.sub_self]
    rfl
  refine ⟨us.length, bound, ?_, ⟨t, offending, ?_⟩, ⟨vs, query, innerBoth.2, ?_⟩, ?_⟩
  · rw [split, List.drop_left, isRest]
  · intro last
    rw [Failure.toError, isRest]
    rfl
  · intro stop' isStop'
    rw [taken]
    exact (ofTokens_eq_ok_iff_derives derives.inner isStop').2 derives
  · intro less others query' succeeds
    rw [List.getElem?_append_left less] at offending
    rw [List.take_add_one, taken, offending, Option.toList_some, List.append_assoc,
      List.singleton_append] at succeeds
    have failsAgain := again t (by rw [isRest]; rfl) others
    rw [ofTokens_eq_error.2 failsAgain] at succeeds
    cases succeeds

/-- In `SELECT a WHERE ( b = c OR , d` the comma is the earliest offence: the group can still be
closed in front of it. -/
theorem ofTokens_fails_earliest_group :
    let word (k : Keyword) : Token := ⟨.keyword k, k.spelling, .start⟩
    let name (s : String) : Token := ⟨.name s, s, .start⟩
    let ts : List Token := [word .select, name "a", word .filter, ⟨.lparen, "(", .start⟩, name "b",
      ⟨.op .eq, "=", .start⟩, name "c", word .disj, ⟨.comma, ",", ⟨1, 27, 26⟩⟩, name "d"]
    let stop : Token := ⟨.stop, "", .start⟩
    let failure : Failure := ⟨.noOperand .comparisonOperand, ts.drop 8 ++ [stop]⟩
    stop.body = .stop ∧ ofTokens (ts ++ [stop]) = .error failure ∧
      (failure.toError stop).pos = ⟨1, 27, 26⟩ ∧
      (∃ us query, (∀ u ∈ us, u.body ≠ .stop) ∧
        ∀ stop', stop'.body = .stop → ofTokens (ts.take 8 ++ us ++ [stop']) = .ok query) ∧
      ∀ others query, ofTokens (ts.take 9 ++ others) ≠ .ok query := by
  intro word name ts stop failure
  have fails : ofTokens (ts ++ [stop]) = .error failure := by cbv
  obtain ⟨k, bound, isRest, -, viable, final⟩ := ofTokens_fails_earliest rfl fails
  have lengths := congrArg List.length isRest
  obtain rfl : k = 8 := by
    rw [List.length_drop] at lengths
    simp [ts, failure] at lengths bound
    omega
  exact ⟨rfl, fails, rfl, viable, final (by decide)⟩

end LogSelect.Query

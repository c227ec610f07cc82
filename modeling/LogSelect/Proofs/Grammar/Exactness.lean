import LogSelect.Proofs.Grammar.Completeness
import LogSelect.Proofs.Grammar.Soundness

/-!
The readings and the grammar agree: a list of tokens is read as a query exactly if the grammar
derives the query from it.
-/

namespace LogSelect.Query

theorem eq_of_append_stop {ts us rest : List Token} {stop t : Token}
    (inner : ∀ t ∈ ts, t.body ≠ .stop) (isStop : t.body = .stop)
    (same : ts ++ [stop] = us ++ t :: rest) : us = ts ∧ rest = [] := by
  induction ts generalizing us with
  | nil =>
    cases us with
    | nil => simp_all
    | cons u us => simp at same
  | cons s ts ih =>
    cases us with
    | nil =>
      obtain ⟨rfl, _⟩ := List.cons.inj same
      exact absurd isStop (inner s List.mem_cons_self)
    | cons u us =>
      obtain ⟨rfl, tails⟩ := List.cons.inj same
      obtain ⟨rfl, rfl⟩ := ih (fun t member => inner t (List.mem_cons_of_mem _ member)) tails
      exact ⟨rfl, rfl⟩

theorem ofTokens_eq_ok {ts : List Token} {query : Query} :
    ofTokens ts = .ok query ↔ ∃ rest, read ts = .ok (query, rest) := by
  unfold ofTokens
  cases read ts with
  | error failure => simp [Except.map]
  | ok result =>
    obtain ⟨query', rest⟩ := result
    simp [Except.map, eq_comm]

theorem ofTokens_eq_ok_iff_derives {ts : List Token} {stop : Token} {query : Query}
    (inner : ∀ t ∈ ts, t.body ≠ .stop) (isStop : stop.body = .stop) :
    ofTokens (ts ++ [stop]) = .ok query ↔ Derives ts query := by
  rw [ofTokens_eq_ok]
  constructor
  · rintro ⟨rest, isRead⟩
    obtain ⟨us, t, split, isEnd, derives⟩ := read_takes isRead
    obtain ⟨rfl, _⟩ := eq_of_append_stop inner isEnd split
    exact derives
  · intro derives
    exact ⟨[], derives.read isStop⟩

/-- The readings accept exactly the token lists of the grammar, each with its one query; every
other list is refused with a failure. -/
theorem ofTokens_exact {ts : List Token} {stop : Token} (inner : ∀ t ∈ ts, t.body ≠ .stop)
    (isStop : stop.body = .stop) :
    (∀ query, ofTokens (ts ++ [stop]) = .ok query ↔ Derives ts query) ∧
      ((¬ ∃ query, Derives ts query) → ∃ failure, ofTokens (ts ++ [stop]) = .error failure) ∧
      ∀ query query', Derives ts query → Derives ts query' → query = query' := by
  have exact : ∀ query, ofTokens (ts ++ [stop]) = .ok query ↔ Derives ts query :=
    fun _ => ofTokens_eq_ok_iff_derives inner isStop
  refine ⟨exact, ?_, ?_⟩
  · intro none
    cases result : ofTokens (ts ++ [stop]) with
    | error failure => exact ⟨failure, rfl⟩
    | ok query => exact absurd ⟨query, (exact query).1 result⟩ none
  · intro query query' derives derives'
    have same := ((exact query).2 derives).symm.trans ((exact query').2 derives')
    exact Except.ok.inj same

/-- `NOT` governs the group alone, and the group leaves no trace. -/
theorem ofTokens_exact_group :
    let word (k : Keyword) : Token := ⟨.keyword k, k.spelling, .start⟩
    let name (s : String) : Token := ⟨.name s, s, .start⟩
    let equals : Token := ⟨.op .eq, "=", .start⟩
    let ts : List Token := [word .select, ⟨.star, "*", .start⟩, word .filter, word .neg,
      ⟨.lparen, "(", .start⟩, name "a", equals, name "b", word .disj, name "c", equals, name "d",
      ⟨.rparen, ")", .start⟩, word .conj, name "e", equals, name "f"]
    let stop : Token := ⟨.stop, "", .start⟩
    (∀ t ∈ ts, t.body ≠ .stop) ∧ stop.body = .stop ∧
      ofTokens (ts ++ [stop]) = .ok ⟨[⟨.wildcard, none⟩],
        some (.and
          (.not (.or (.compare (.column "a") .eq (.column "b"))
            (.compare (.column "c") .eq (.column "d"))))
          (.compare (.column "e") .eq (.column "f"))), [], none, none⟩ := by
  intro word name equals ts stop
  have inner : ∀ t ∈ ts, t.body ≠ .stop := by decide
  have comparison : ∀ a b, Forms .comparison [name a, equals, name b]
      (.compare (.column a) .eq (.column b)) := fun _ _ => .compare (.name rfl) rfl (.name rfl)
  have group : Forms .disjunction
      [name "a", equals, name "b", word .disj, name "c", equals, name "d"]
      (.or (.compare (.column "a") .eq (.column "b")) (.compare (.column "c") .eq (.column "d"))) :=
    .or (.conjunction (.negation (.comparison (comparison "a" "b")))) rfl
      (.negation (.comparison (comparison "c" "d")))
  have derives : Derives ts _ :=
    .intro rfl (.all rfl) .absent
      (.given rfl (.conjunction
        (.and (.negation (.not rfl (.comparison (.group rfl group rfl)))) rfl
          (.comparison (comparison "e" "f")))))
      .absent .absent .absent .absent
  exact ⟨inner, rfl, ((ofTokens_exact inner rfl).1 _).2 derives⟩

end LogSelect.Query

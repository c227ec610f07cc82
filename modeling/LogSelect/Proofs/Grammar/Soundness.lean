import LogSelect.Proofs.Grammar.Outcome

/-!
Whatever is read from the front of the tokens is derived by the grammar.

The rank of negations carries the induction: if negations are read soundly from all shorter lists,
so are conjunctions and disjunctions, and brackets lead back to a shorter list.
-/

namespace LogSelect.Query

/-- What is read from the front of the tokens forms the value that is read. -/
def Takes {α : Type} (ts : List Token) (read : Outcome α) (Part : List Token → α → Prop) : Prop :=
  ∀ value rest, read = .ok (value, rest) → ∃ us, ts = us ++ rest ∧ Part us value

/-! ## Predicates -/

section Chain

variable {link : Token.Body} {join : Term → Term → Term} {part whole : List Token → Outcome Term}
  {more : Term → List Token → Outcome Term} {Part Whole : List Token → Term → Prop} {n : Nat}

theorem Chain.more_takes (chain : Chain link join part whole more)
    (shorter : ∀ ts p rest, part ts = .ok (p, rest) → rest.length < ts.length)
    (extend : ∀ {ts t us p q}, Whole ts p → t.body = link → Part us q →
      Whole (ts ++ t :: us) (join p q))
    (parts : ∀ ts, ts.length < n → Takes ts (part ts) Part) {ls ts : List Token} {left : Term}
    (bound : ts.length ≤ n) (before : Whole ls left) :
    Takes ts (more left ts) fun us p => Whole (ls ++ us) p := by
  induction h : ts.length using Nat.strongRecOn generalizing ls ts left with
  | ind size ih =>
    intro p rest read
    by_cases front : front? ts = some link
    · obtain ⟨t, us, rfl, same⟩ := front?_eq_some.1 front
      rw [chain.grow left t us same, bind_eq_ok] at read
      obtain ⟨⟨right, afterRight⟩, readRight, readMore⟩ := read
      simp only [List.length_cons] at bound h
      obtain ⟨qs, rfl, formsRight⟩ := parts us (by omega) right afterRight readRight
      have less := shorter _ _ _ readRight
      obtain ⟨vs, rfl, formsWhole⟩ := ih afterRight.length (by omega) (by omega)
        (extend before same formsRight) rfl p rest readMore
      exact ⟨t :: (qs ++ vs), by simp, by simpa using formsWhole⟩
    · rw [chain.stop left ts front] at read
      cases read
      exact ⟨[], rfl, by simpa using before⟩

theorem Chain.whole_takes (chain : Chain link join part whole more)
    (shorter : ∀ ts p rest, part ts = .ok (p, rest) → rest.length < ts.length)
    (single : ∀ {ts p}, Part ts p → Whole ts p)
    (extend : ∀ {ts t us p q}, Whole ts p → t.body = link → Part us q →
      Whole (ts ++ t :: us) (join p q))
    (parts : ∀ ts, ts.length < n → Takes ts (part ts) Part) {ts : List Token}
    (bound : ts.length < n) :
    Takes ts (whole ts) Whole := by
  intro p rest read
  rw [chain.start, bind_eq_ok] at read
  obtain ⟨⟨left, afterLeft⟩, readLeft, readMore⟩ := read
  have less := shorter _ _ _ readLeft
  obtain ⟨us, rfl, formsLeft⟩ := parts ts bound left afterLeft readLeft
  obtain ⟨vs, rfl, formsWhole⟩ := chain.more_takes shorter extend parts (by omega)
    (single formsLeft) p rest readMore
  exact ⟨us ++ vs, by simp, formsWhole⟩

end Chain

section Predicates

variable {n : Nat}
  (negations : ∀ ts, ts.length < n → Takes ts (outcome (negation ts)) (Forms .negation))
  {ts : List Token} (bound : ts.length < n)

include negations bound

theorem conjunction_takes : Takes ts (outcome (conjunction ts)) (Forms .conjunction) :=
  conjunction_chain.whole_takes (fun _ _ _ read => length_rest_lt read) .negation .and negations
    bound

theorem disjunction_takes : Takes ts (outcome (disjunction ts)) (Forms .disjunction) :=
  disjunction_chain.whole_takes (fun _ _ _ read => length_rest_lt read) .conjunction .or
    (fun _ bound => conjunction_takes negations bound) bound

end Predicates

theorem negation_takes (ts : List Token) :
    Takes ts (outcome (negation ts)) (Forms .negation) := by
  induction ts using (measure List.length).wf.induction with
  | h ts shorter =>
    intro p rest read
    by_cases negated : front? ts = some (.keyword .neg)
    · obtain ⟨t, us, rfl, same⟩ := front?_eq_some.1 negated
      rw [outcome_negation_neg us same, bind_eq_ok] at read
      obtain ⟨⟨q, afterTerm⟩, readTerm, ⟨⟩⟩ := read
      obtain ⟨qs, rfl, forms⟩ := shorter us (Nat.lt_succ_self _) q rest readTerm
      exact ⟨t :: qs, rfl, .not same forms⟩
    by_cases bracketed : front? ts = some .lparen
    · obtain ⟨l, us, rfl, opens⟩ := front?_eq_some.1 bracketed
      rw [outcome_negation_lparen us opens, bind_eq_ok] at read
      obtain ⟨⟨q, afterTerm⟩, readTerm, readBracket⟩ := read
      obtain ⟨⟨_, afterClose⟩, readClose, ⟨⟩⟩ := bind_eq_ok.1 readBracket
      obtain ⟨r, rfl, closes⟩ := outcome_expect_eq_ok.1 readClose
      obtain ⟨qs, rfl, forms⟩ :=
        disjunction_takes shorter (Nat.lt_succ_self us.length) p _ readTerm
      exact ⟨l :: (qs ++ [r]), by simp, .comparison (.group opens forms closes)⟩
    · rw [outcome_negation_other negated bracketed] at read
      obtain ⟨l, o, r, a, op, b, rfl, left, same, right, rfl⟩ := outcome_comparison_eq_ok.1 read
      exact ⟨[l, o, r], rfl, .comparison (.compare left same right)⟩

theorem predicate_takes (ts : List Token) :
    Takes ts (outcome (disjunction ts)) (Forms .disjunction) :=
  disjunction_takes (fun us _ => negation_takes us) (Nat.lt_succ_self ts.length)

/-! ## Lists and clauses -/

theorem selectItem_takes (ts : List Token) : Takes ts (outcome (selectItem ts)) FormsItem := by
  intro item rest read
  rw [outcome_selectItem] at read
  split at read
  · cases read
  · obtain ⟨⟨a, afterTerm⟩, readTerm, readMore⟩ := bind_eq_ok.1 read
    obtain ⟨t, rfl, operandToken⟩ := outcome_operand_eq_ok.1 readTerm
    rcases optionally_eq_ok.1 readMore with ⟨l, us, rfl, isLabel, readLabel⟩ | ⟨_, rfl, rfl⟩
    · obtain ⟨⟨name, afterName⟩, readName, ⟨⟩⟩ := bind_eq_ok.1 readLabel
      obtain ⟨n, rfl, isName⟩ := outcome_expectName_eq_ok.1 readName
      exact ⟨[t, l, n], rfl, .labelled operandToken isLabel isName⟩
    · exact ⟨[t], rfl, .plain operandToken⟩

theorem orderKey_takes (ts : List Token) : Takes ts (outcome (orderKey ts)) FormsKey := by
  intro item rest read
  rw [outcome_orderKey, bind_eq_ok] at read
  obtain ⟨⟨a, afterTerm⟩, readTerm, readMore⟩ := read
  obtain ⟨t, rfl, operandToken⟩ := outcome_operand_eq_ok.1 readTerm
  dsimp only at readMore
  split at readMore
  next front =>
    obtain ⟨d, us, rfl, isDescending⟩ := front?_eq_some.1 front
    cases readMore
    exact ⟨[t, d], rfl, .descending operandToken isDescending⟩
  next =>
    rcases optionally_eq_ok.1 readMore with ⟨d, us, rfl, isAscending, ⟨⟩⟩ | ⟨_, rfl, rfl⟩
    · exact ⟨[t, d], rfl, .ascending operandToken isAscending⟩
    · exact ⟨[t], rfl, .plain operandToken⟩

theorem commaList_takes {α : Type} {part : (ts : List Token) → Reading ts.length α}
    {Part : List Token → α → Prop} (parts : ∀ ts, Takes ts (outcome (part ts)) Part)
    (ts : List Token) : Takes ts (outcome (commaList part ts)) (FormsList Part) := by
  induction ts using (measure List.length).wf.induction with
  | h ts shorter =>
    intro values rest read
    rw [outcome_commaList, bind_eq_ok] at read
    obtain ⟨⟨first, afterFirst⟩, readFirst, readMore⟩ := read
    have less := length_rest_lt readFirst
    obtain ⟨us, rfl, formsFirst⟩ := parts ts first afterFirst readFirst
    rcases optionally_eq_ok.1 readMore with ⟨c, vs, rfl, isComma, readList⟩ | ⟨_, rfl, rfl⟩
    · obtain ⟨⟨others, afterOthers⟩, readOthers, ⟨⟩⟩ := bind_eq_ok.1 readList
      obtain ⟨ws, rfl, formsOthers⟩ :=
        shorter vs (Nat.lt_of_succ_lt less) others _ readOthers
      exact ⟨us ++ c :: ws, by simp, .more formsFirst isComma formsOthers⟩
    · exact ⟨us, rfl, .one formsFirst⟩

theorem selection_takes (ts : List Token) : Takes ts (outcome (selection ts)) FormsSelection := by
  intro items rest read
  rw [outcome_selection] at read
  split at read
  next front =>
    obtain ⟨t, us, rfl, isStar⟩ := front?_eq_some.1 front
    split at read
    · cases read
    · split at read
      · cases read
      · cases read
        exact ⟨[t], rfl, .all isStar⟩
  next =>
    obtain ⟨us, rfl, forms⟩ := commaList_takes selectItem_takes ts items rest read
    exact ⟨us, rfl, .items forms⟩

theorem sourceClause_takes (ts : List Token) :
    Takes ts (outcome (sourceClause ts)) fun us _ => FormsSource us := by
  intro _ rest read
  rw [outcome_sourceClause] at read
  rcases optionally_eq_ok.1 read with ⟨f, us, rfl, isFrom, read⟩ | ⟨_, _, rfl⟩
  · obtain ⟨⟨name, afterName⟩, readName, ⟨⟩⟩ := bind_eq_ok.1 read
    obtain ⟨n, rfl, isName⟩ := outcome_expectName_eq_ok.1 readName
    exact ⟨[f, n], rfl, .named isFrom isName⟩
  · exact ⟨[], rfl, .absent⟩

theorem filterClause_takes (ts : List Token) :
    Takes ts (outcome (filterClause ts)) FormsFilter := by
  intro filter rest read
  rw [outcome_filterClause] at read
  rcases optionally_eq_ok.1 read with ⟨w, us, rfl, isWhere, read⟩ | ⟨_, rfl, rfl⟩
  · obtain ⟨⟨p, afterTerm⟩, readTerm, ⟨⟩⟩ := bind_eq_ok.1 read
    obtain ⟨vs, rfl, forms⟩ := predicate_takes us p _ readTerm
    exact ⟨w :: vs, rfl, .given isWhere forms⟩
  · exact ⟨[], rfl, .absent⟩

theorem orderClause_takes (ts : List Token) : Takes ts (outcome (orderClause ts)) FormsOrder := by
  intro keys rest read
  rw [outcome_orderClause] at read
  rcases optionally_eq_ok.1 read with ⟨o, us, rfl, isOrder, read⟩ | ⟨_, rfl, rfl⟩
  · obtain ⟨⟨_, afterBy⟩, readBy, readKeys⟩ := bind_eq_ok.1 read
    obtain ⟨b, rfl, isBy⟩ := outcome_expect_eq_ok.1 readBy
    obtain ⟨vs, rfl, forms⟩ := commaList_takes orderKey_takes afterBy keys rest readKeys
    exact ⟨o :: b :: vs, rfl, .given isOrder isBy forms⟩
  · exact ⟨[], rfl, .absent⟩

theorem countClause_takes (clause : Clause) (ts : List Token) :
    Takes ts (outcome (countClause clause ts)) (FormsCount clause) := by
  intro count rest read
  rw [outcome_countClause] at read
  rcases optionally_eq_ok.1 read with ⟨w, us, rfl, isWord, read⟩ | ⟨_, rfl, rfl⟩
  · obtain ⟨⟨n, afterCount⟩, readCount, ⟨⟩⟩ := bind_eq_ok.1 read
    obtain ⟨t, rfl, isNumber, notNegative⟩ := outcome_count_eq_ok.1 readCount
    exact ⟨[w, t], rfl, .given isWord isNumber notNegative⟩
  · exact ⟨[], rfl, .absent⟩

theorem optionalSemicolon_takes (ts : List Token) :
    ∃ us, ts = us ++ optionalSemicolon ts ∧ FormsEnd us := by
  unfold optionalSemicolon
  split
  · exact ⟨[_], rfl, .semicolon rfl⟩
  · exact ⟨[], rfl, .absent⟩

/-! ## Queries -/

/-- A query that is read is derived from the tokens in front of the one that ends the text. -/
theorem read_takes {ts rest : List Token} {query : Query} (isRead : read ts = .ok (query, rest)) :
    ∃ us stop, ts = us ++ stop :: rest ∧ stop.body = .stop ∧ Derives us query := by
  rw [read_eq] at isRead
  obtain ⟨⟨_, ts₁⟩, readSelect, isRead⟩ := bind_eq_ok.1 isRead
  obtain ⟨⟨items, ts₂⟩, readItems, isRead⟩ := bind_eq_ok.1 isRead
  obtain ⟨⟨_, ts₃⟩, readSource, isRead⟩ := bind_eq_ok.1 isRead
  obtain ⟨⟨p, ts₄⟩, readFilter, isRead⟩ := bind_eq_ok.1 isRead
  obtain ⟨⟨keys, ts₅⟩, readOrder, isRead⟩ := bind_eq_ok.1 isRead
  obtain ⟨⟨l, ts₆⟩, readLimit, isRead⟩ := bind_eq_ok.1 isRead
  obtain ⟨⟨o, ts₇⟩, readOffset, isRead⟩ := bind_eq_ok.1 isRead
  obtain ⟨⟨_, ts₈⟩, readStop, ⟨⟩⟩ := bind_eq_ok.1 isRead
  obtain ⟨s, rfl, isSelect⟩ := outcome_expect_eq_ok.1 readSelect
  obtain ⟨select, rfl, formsSelect⟩ := selection_takes _ _ _ readItems
  obtain ⟨source, rfl, formsSource⟩ := sourceClause_takes _ _ _ readSource
  obtain ⟨filter, rfl, formsFilter⟩ := filterClause_takes _ _ _ readFilter
  obtain ⟨order, rfl, formsOrder⟩ := orderClause_takes _ _ _ readOrder
  obtain ⟨limit, rfl, formsLimit⟩ := countClause_takes _ _ _ _ readLimit
  obtain ⟨offset, rfl, formsOffset⟩ := countClause_takes _ _ _ _ readOffset
  obtain ⟨stop, afterEnd, isStop⟩ := outcome_expect_eq_ok.1 readStop
  obtain ⟨semi, split, formsEnd⟩ := optionalSemicolon_takes ts₇
  rw [afterEnd] at split
  subst split
  exact ⟨_, stop, by simp, isStop, .intro isSelect formsSelect formsSource formsFilter formsOrder
    formsLimit formsOffset formsEnd⟩

end LogSelect.Query

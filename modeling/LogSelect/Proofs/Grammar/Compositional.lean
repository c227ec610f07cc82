import LogSelect.Proofs.Grammar.Outcome

/-!
What holds of a reading because it holds of its parts.

Every reading is made of readings of single tokens by sequence, choice by the first token and
recursion behind a token.  A property that these keep is a property of all readings.
-/

namespace LogSelect.Query

/-! ## The shape of readings -/

theorem Chain.more_eq {link : Token.Body} {join : Term → Term → Term}
    {part whole : List Token → Outcome Term} {more : Term → List Token → Outcome Term}
    (chain : Chain link join part whole more) (left : Term) (ts : List Token) :
    more left ts =
      optionally link (fun ts => (part ts).bind fun (right, rest) => more (join left right) rest)
        left ts := by
  by_cases front : front? ts = some link
  · obtain ⟨t, us, rfl, same⟩ := front?_eq_some.1 front
    rw [optionally_cons same, chain.grow left t us same]
  · rw [optionally_of_ne front, chain.stop left ts front]

theorem outcome_negation (ts : List Token) :
    outcome (negation ts) =
      if front? ts = some (.keyword .neg) then
        (fun ts => (outcome (negation ts)).bind fun (p, rest) => .ok (.not p, rest)) ts.tail
      else if front? ts = some .lparen then
        (fun ts => (outcome (disjunction ts)).bind fun (p, afterTerm) =>
          (outcome (expect .rparen .unclosedGroup afterTerm)).bind fun (_, rest) =>
            .ok (p, rest)) ts.tail
      else outcome (comparison ts) := by
  by_cases negated : front? ts = some (.keyword .neg)
  · obtain ⟨t, us, rfl, same⟩ := front?_eq_some.1 negated
    rw [if_pos negated, outcome_negation_neg us same, List.tail_cons]
  rw [if_neg negated]
  by_cases bracketed : front? ts = some .lparen
  · obtain ⟨t, us, rfl, same⟩ := front?_eq_some.1 bracketed
    rw [if_pos bracketed, outcome_negation_lparen us same, List.tail_cons]
  · rw [if_neg bracketed, outcome_negation_other negated bracketed]

theorem optionalSemicolon_eq (ts : List Token) :
    optionalSemicolon ts = if front? ts = some .semicolon then ts.tail else ts := by
  unfold optionalSemicolon
  split
  · rfl
  next absent => rw [if_neg (front?_ne absent)]

theorem outcome_end (ts : List Token) :
    outcome (expect .stop .notAtEnd (optionalSemicolon ts)) =
      if front? ts = some .semicolon then
        (fun ts => outcome (expect .stop .notAtEnd ts)) ts.tail
      else outcome (expect .stop .notAtEnd ts) := by
  by_cases semicolon : front? ts = some .semicolon
  · rw [optionalSemicolon_eq, if_pos semicolon, if_pos semicolon]
  · rw [optionalSemicolon_eq, if_neg semicolon, if_neg semicolon]

/-! ## Properties of all readings -/

/-- A property of readings, at the tokens that they are applied to, that holds of the readings of
single tokens and is kept by sequences and choices. -/
structure Compositional (P : {α : Type} → (List Token → Outcome α) → List Token → Prop) :
    Prop where
  ok : ∀ {α : Type} (value : α) ts, P (fun ts => .ok (value, ts)) ts
  error : ∀ {α : Type} complaint ts, P (fun ts => (.error ⟨complaint, ts⟩ : Outcome α)) ts
  expect : ∀ body complaint ts, P (fun ts => outcome (expect body complaint ts)) ts
  expectName : ∀ complaint ts, P (fun ts => outcome (expectName complaint ts)) ts
  operand : ∀ role ts, P (fun ts => outcome (operand role ts)) ts
  operator : ∀ ts, P operator ts
  count : ∀ clause ts, P (fun ts => outcome (count clause ts)) ts
  bind : ∀ {α β : Type} {read : List Token → Outcome α} {next : α × List Token → Outcome β} {ts},
    P read ts → (∀ a rest, read ts = .ok (a, rest) → P (fun rest => next (a, rest)) rest) →
      P (fun ts => (read ts).bind next) ts
  ite : ∀ {α : Type} {read other : List Token → Outcome α} {body ts},
    (front? ts = some body → P read ts) → (front? ts ≠ some body → P other ts) →
      P (fun ts => if front? ts = some body then read ts else other ts) ts
  tail : ∀ {α : Type} {read : List Token → Outcome α} {t ts},
    P read ts → P (fun ts => read ts.tail) (t :: ts)

namespace Compositional

variable {P : {α : Type} → (List Token → Outcome α) → List Token → Prop} {α : Type}

theorem optionally (compositional : Compositional P) {read : List Token → Outcome α}
    {body : Token.Body} {absent : α} {ts : List Token}
    (present : ∀ t us, ts = t :: us → P read us) : P (optionally body read absent) ts := by
  apply compositional.ite
  · intro front
    obtain ⟨t, us, rfl, _⟩ := front?_eq_some.1 front
    exact compositional.tail (present t us rfl)
  · intro _
    exact compositional.ok absent ts

/-! ### Predicates -/

theorem comparison (compositional : Compositional P) (ts : List Token) :
    P (fun ts => outcome (comparison ts)) ts := by
  rw [funext outcome_comparison]
  apply compositional.bind (compositional.operand _ ts)
  intro left afterLeft _
  apply compositional.bind (compositional.operator afterLeft)
  intro op afterOp _
  apply compositional.bind (compositional.operand _ afterOp)
  intro right rest _
  exact compositional.ok _ rest

section Chain

variable {link : Token.Body} {join : Term → Term → Term} {part whole : List Token → Outcome Term}
  {more : Term → List Token → Outcome Term} {n : Nat}

theorem chain_more (compositional : Compositional P) (chain : Chain link join part whole more)
    (shorter : ∀ ts p rest, part ts = .ok (p, rest) → rest.length < ts.length)
    (parts : ∀ ts, ts.length < n → P part ts) {ts : List Token} (bound : ts.length ≤ n)
    (left : Term) : P (more left) ts := by
  induction h : ts.length using Nat.strongRecOn generalizing ts left with
  | ind size ih =>
    rw [funext (chain.more_eq left)]
    apply compositional.optionally
    rintro t us rfl
    simp only [List.length_cons] at bound h
    apply compositional.bind (parts us (by omega))
    intro right rest isRead
    have less := shorter us right rest isRead
    exact ih rest.length (by omega) (by omega) (join left right) rfl

theorem chain_whole (compositional : Compositional P) (chain : Chain link join part whole more)
    (shorter : ∀ ts p rest, part ts = .ok (p, rest) → rest.length < ts.length)
    (parts : ∀ ts, ts.length < n → P part ts) {ts : List Token} (bound : ts.length < n) :
    P whole ts := by
  rw [funext chain.start]
  apply compositional.bind (parts ts bound)
  intro left rest isRead
  have less := shorter ts left rest isRead
  exact compositional.chain_more chain shorter parts (by omega) left

end Chain

theorem disjunction (compositional : Compositional P) {n : Nat}
    (negations : ∀ ts, ts.length < n → P (fun ts => outcome (negation ts)) ts)
    {ts : List Token} (bound : ts.length < n) : P (fun ts => outcome (disjunction ts)) ts := by
  have conjunctions : ∀ ts, ts.length < n → P (fun ts => outcome (conjunction ts)) ts := by
    intro ts bound
    exact compositional.chain_whole conjunction_chain (fun _ _ _ read => length_rest_lt read)
      negations bound
  exact compositional.chain_whole disjunction_chain (fun _ _ _ read => length_rest_lt read)
    conjunctions bound

theorem negation (compositional : Compositional P) (ts : List Token) :
    P (fun ts => outcome (negation ts)) ts := by
  induction ts using (measure List.length).wf.induction with
  | h ts shorter =>
    rw [funext outcome_negation]
    apply compositional.ite
    · intro negated
      obtain ⟨t, us, rfl, _⟩ := front?_eq_some.1 negated
      refine compositional.tail
        (compositional.bind (shorter us (Nat.lt_succ_self us.length)) ?_)
      intro p rest _
      exact compositional.ok _ rest
    intro _
    apply compositional.ite
    · intro bracketed
      obtain ⟨t, us, rfl, _⟩ := front?_eq_some.1 bracketed
      refine compositional.tail (compositional.bind
        (compositional.disjunction shorter (Nat.lt_succ_self us.length)) ?_)
      intro p afterTerm _
      apply compositional.bind (compositional.expect _ _ afterTerm)
      intro _ rest _
      exact compositional.ok _ rest
    · intro _
      exact compositional.comparison ts

theorem predicate (compositional : Compositional P) (ts : List Token) :
    P (fun ts => outcome (Query.disjunction ts)) ts :=
  compositional.disjunction (fun us _ => compositional.negation us) (Nat.lt_succ_self ts.length)

/-! ### Lists and clauses -/

theorem selectItem (compositional : Compositional P) (ts : List Token) :
    P (fun ts => outcome (selectItem ts)) ts := by
  rw [funext outcome_selectItem]
  apply compositional.ite
  · intro _
    exact compositional.error _ ts
  intro _
  apply compositional.bind (compositional.operand _ ts)
  intro a afterTerm _
  apply compositional.optionally
  rintro t us rfl
  apply compositional.bind (compositional.expectName _ us)
  intro name rest _
  exact compositional.ok _ rest

theorem orderKey (compositional : Compositional P) (ts : List Token) :
    P (fun ts => outcome (orderKey ts)) ts := by
  rw [funext outcome_orderKey]
  apply compositional.bind (compositional.operand _ ts)
  intro a afterTerm _
  apply compositional.ite
  · intro front
    obtain ⟨t, us, rfl, _⟩ := front?_eq_some.1 front
    exact compositional.tail (compositional.ok _ us)
  · intro _
    apply compositional.optionally
    rintro t us rfl
    exact compositional.ok _ us

theorem commaList (compositional : Compositional P)
    {part : (ts : List Token) → Reading ts.length α}
    (parts : ∀ ts, P (fun ts => outcome (part ts)) ts) (ts : List Token) :
    P (fun ts => outcome (commaList part ts)) ts := by
  induction ts using (measure List.length).wf.induction with
  | h ts shorter =>
    rw [funext (outcome_commaList part)]
    apply compositional.bind (parts ts)
    intro first afterFirst isRead
    have less := length_rest_lt isRead
    apply compositional.optionally
    rintro t us rfl
    apply compositional.bind (shorter us (Nat.lt_of_succ_lt less))
    intro others rest _
    exact compositional.ok _ rest

theorem selection (compositional : Compositional P) (ts : List Token) :
    P (fun ts => outcome (selection ts)) ts := by
  rw [funext outcome_selection]
  apply compositional.ite
  · intro front
    obtain ⟨t, us, rfl, _⟩ := front?_eq_some.1 front
    have behind : P (fun us => if front? us = some .comma then
        .error ⟨.wildcardMixed, us⟩ else if front? us = some (.keyword .label) then
        .error ⟨.wildcardLabelled, us⟩ else .ok ([SelectItem.mk .wildcard none], us)) us := by
      apply compositional.ite
      · intro _
        exact compositional.error _ us
      intro _
      apply compositional.ite
      · intro _
        exact compositional.error _ us
      · intro _
        exact compositional.ok _ us
    exact compositional.tail behind
  · intro _
    exact compositional.commaList compositional.selectItem ts

theorem sourceClause (compositional : Compositional P) (ts : List Token) :
    P (fun ts => outcome (sourceClause ts)) ts := by
  rw [funext outcome_sourceClause]
  apply compositional.optionally
  rintro t us rfl
  apply compositional.bind (compositional.expectName _ us)
  intro _ rest _
  exact compositional.ok _ rest

theorem filterClause (compositional : Compositional P) (ts : List Token) :
    P (fun ts => outcome (filterClause ts)) ts := by
  rw [funext outcome_filterClause]
  apply compositional.optionally
  rintro t us rfl
  apply compositional.bind (compositional.predicate us)
  intro p rest _
  exact compositional.ok _ rest

theorem orderClause (compositional : Compositional P) (ts : List Token) :
    P (fun ts => outcome (orderClause ts)) ts := by
  rw [funext outcome_orderClause]
  apply compositional.optionally
  rintro t us rfl
  apply compositional.bind (compositional.expect _ _ us)
  intro _ afterBy _
  exact compositional.commaList compositional.orderKey afterBy

theorem countClause (compositional : Compositional P) (clause : Clause) (ts : List Token) :
    P (fun ts => outcome (countClause clause ts)) ts := by
  rw [funext (outcome_countClause clause)]
  apply compositional.optionally
  rintro t us rfl
  apply compositional.bind (compositional.count clause us)
  intro n rest _
  exact compositional.ok _ rest

theorem atEnd (compositional : Compositional P) (ts : List Token) :
    P (fun ts => outcome (Query.expect .stop .notAtEnd (optionalSemicolon ts))) ts := by
  rw [funext outcome_end]
  apply compositional.ite
  · intro semicolon
    obtain ⟨t, us, rfl, _⟩ := front?_eq_some.1 semicolon
    exact compositional.tail (compositional.expect _ _ us)
  · intro _
    exact compositional.expect _ _ ts

/-! ### Queries -/

theorem read (compositional : Compositional P) (ts : List Token) : P read ts := by
  rw [funext read_eq]
  apply compositional.bind (compositional.expect _ _ ts)
  intro _ afterSelect _
  apply compositional.bind (compositional.selection afterSelect)
  intro items afterItems _
  apply compositional.bind (compositional.sourceClause afterItems)
  intro _ afterSource _
  apply compositional.bind (compositional.filterClause afterSource)
  intro p afterFilter _
  apply compositional.bind (compositional.orderClause afterFilter)
  intro keys afterOrder _
  apply compositional.bind (compositional.countClause .limit afterOrder)
  intro l afterLimit _
  apply compositional.bind (compositional.countClause .offset afterLimit)
  intro o afterOffset _
  apply compositional.bind (compositional.atEnd afterOffset)
  intro _ rest _
  exact compositional.ok _ rest

end Compositional

end LogSelect.Query

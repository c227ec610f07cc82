import LogSelect.Proofs.Except
import LogSelect.Proofs.Grammar.Derivation

/-!
Readings without their bounds.

Every reading function is described once, by what it yields on the tokens it may meet; later proofs
cite these equations and open no function.  Disjunctions and conjunctions are two cases of one
pattern, a chain of operands that grows to the right, and are described as such.
-/

namespace LogSelect.Query

abbrev Outcome (α : Type) :=
  Except Failure (α × List Token)

section Outcome

variable {bound : Nat} {α : Type}

def outcome (reading : Reading bound α) : Outcome α :=
  reading.map fun parsed => (parsed.value, parsed.rest)

@[simp]
theorem outcome_error (failure : Failure) :
    outcome (.error failure : Reading bound α) = .error failure := rfl

@[simp]
theorem outcome_ok (parsed : Parsed bound α) :
    outcome (.ok parsed) = .ok (parsed.value, parsed.rest) := rfl

theorem length_rest_lt {reading : Reading bound α} {value : α} {rest : List Token}
    (read : outcome reading = .ok (value, rest)) : rest.length < bound := by
  cases reading with
  | error failure => simp at read
  | ok parsed =>
    cases read
    exact parsed.within

end Outcome

@[simp]
theorem front?_nil : front? [] = none := rfl

@[simp]
theorem front?_cons (t : Token) (ts : List Token) : front? (t :: ts) = some t.body := rfl

theorem front?_eq_some {ts : List Token} {body : Token.Body} :
    front? ts = some body ↔ ∃ t us, ts = t :: us ∧ t.body = body := by
  cases ts with
  | nil => simp
  | cons t us =>
    constructor
    · intro same
      exact ⟨t, us, rfl, Option.some.inj same⟩
    · rintro ⟨_, _, ⟨rfl, rfl⟩, rfl⟩
      rfl

theorem front?_ne {ts : List Token} {body : Token.Body}
    (absent : ∀ lexeme pos us, ts = ⟨body, lexeme, pos⟩ :: us → False) :
    front? ts ≠ some body := by
  intro front
  obtain ⟨⟨_, lexeme, pos⟩, us, split, rfl⟩ := front?_eq_some.1 front
  exact absent lexeme pos us split

/-! ## Single tokens and operands -/

theorem outcome_expect_eq_ok {body : Token.Body} {complaint : Complaint} {ts rest : List Token}
    {u : Unit} :
    outcome (expect body complaint ts) = .ok (u, rest) ↔
      ∃ t, ts = t :: rest ∧ t.body = body := by
  constructor
  · intro read
    unfold expect at read
    split at read
    · split at read
      next same => cases read; exact ⟨_, rfl, same⟩
      next => cases read
    · cases read
  · rintro ⟨t, rfl, same⟩
    simp [expect, same]

theorem outcome_expectName_eq_ok {complaint : Complaint} {ts rest : List Token} {name : String} :
    outcome (expectName complaint ts) = .ok (name, rest) ↔
      ∃ t, ts = t :: rest ∧ t.body = .name name := by
  constructor
  · intro read
    unfold expectName at read
    split at read
    · cases read
      exact ⟨_, rfl, rfl⟩
    · cases read
  · rintro ⟨⟨body, lexeme, pos⟩, rfl, same⟩
    cases same
    rfl

theorem outcome_operand_eq_ok {role : Role} {ts rest : List Token} {a : Term} :
    outcome (operand role ts) = .ok (a, rest) ↔ ∃ t, ts = t :: rest ∧ IsOperandToken t a := by
  constructor
  · intro read
    unfold operand at read
    split at read
    · cases read
      exact ⟨_, rfl, .name rfl⟩
    · cases read
      exact ⟨_, rfl, .text rfl⟩
    · cases read
      exact ⟨_, rfl, .number rfl⟩
    · cases read
    · cases read
  · rintro ⟨⟨body, lexeme, pos⟩, rfl, operandToken⟩
    cases operandToken with
    | name same => cases same; rfl
    | text same => cases same; rfl
    | number same => cases same; rfl

/-! ## Comparisons and negations -/

def operator : List Token → Outcome CompareOp
  | ⟨.op op, _, _⟩ :: rest => .ok (op, rest)
  | ts => .error ⟨.noOperator, ts⟩

theorem operator_eq_ok {ts rest : List Token} {op : CompareOp} :
    operator ts = .ok (op, rest) ↔ ∃ t, ts = t :: rest ∧ t.body = .op op := by
  constructor
  · intro read
    unfold operator at read
    split at read
    · cases read
      exact ⟨_, rfl, rfl⟩
    · cases read
  · rintro ⟨⟨body, lexeme, pos⟩, rfl, same⟩
    cases same
    rfl

theorem outcome_comparison (ts : List Token) :
    outcome (comparison ts) =
      (outcome (operand .comparisonOperand ts)).bind fun (left, afterLeft) =>
        (operator afterLeft).bind fun (op, afterOp) =>
          (outcome (operand .comparisonOperand afterOp)).bind fun (right, rest) =>
            .ok (.compare left op right, rest) := by
  unfold comparison
  cases operand .comparisonOperand ts with
  | error failure => rfl
  | ok parsed =>
    obtain ⟨left, afterLeft, within⟩ := parsed
    simp only [outcome_ok, Except.bind]
    split
    next op _ _ afterOp _ =>
      simp only [operator]
      cases operand .comparisonOperand afterOp <;> rfl
    next noOperator =>
      rw [operator]
      · rfl
      · rintro op lexeme pos rest rfl
        exact noOperator op lexeme pos rest within rfl .rfl

theorem outcome_comparison_eq_ok {ts rest : List Token} {p : Term} :
    outcome (comparison ts) = .ok (p, rest) ↔
      ∃ l o r a op b, ts = l :: o :: r :: rest ∧ IsOperandToken l a ∧ o.body = .op op ∧
        IsOperandToken r b ∧ p = .compare a op b := by
  simp only [outcome_comparison, bind_eq_ok, Prod.exists, outcome_operand_eq_ok, operator_eq_ok,
    Except.ok.injEq, Prod.mk.injEq]
  constructor
  · rintro ⟨a, _, ⟨l, rfl, left⟩, op, _, ⟨o, rfl, same⟩, b, _, ⟨r, rfl, right⟩, rfl, rfl⟩
    exact ⟨l, o, r, a, op, b, rfl, left, same, right, rfl⟩
  · rintro ⟨l, o, r, a, op, b, rfl, left, same, right, rfl⟩
    exact ⟨a, _, ⟨l, rfl, left⟩, op, _, ⟨o, rfl, same⟩, b, _, ⟨r, rfl, right⟩, rfl, rfl⟩

theorem outcome_negation_neg {t : Token} (ts : List Token) (same : t.body = .keyword .neg) :
    outcome (negation (t :: ts)) =
      (outcome (negation ts)).bind fun (p, rest) => .ok (.not p, rest) := by
  obtain ⟨body, lexeme, pos⟩ := t
  cases same
  rw [negation]
  cases negation ts <;> rfl

theorem outcome_negation_lparen {t : Token} (ts : List Token) (same : t.body = .lparen) :
    outcome (negation (t :: ts)) =
      (outcome (disjunction ts)).bind fun (p, afterTerm) =>
        (outcome (expect .rparen .unclosedGroup afterTerm)).bind fun (_, rest) =>
          .ok (p, rest) := by
  obtain ⟨body, lexeme, pos⟩ := t
  cases same
  rw [negation]
  cases disjunction ts with
  | error failure => rfl
  | ok parsed =>
    obtain ⟨p, afterTerm, within⟩ := parsed
    simp only [outcome_ok, Except.bind]
    cases expect .rparen .unclosedGroup afterTerm <;> rfl

theorem outcome_negation_other {ts : List Token} (noNegation : front? ts ≠ some (.keyword .neg))
    (noBracket : front? ts ≠ some .lparen) :
    outcome (negation ts) = outcome (comparison ts) := by
  rw [negation]
  · rintro lexeme pos rest rfl
    exact noNegation rfl
  · rintro lexeme pos rest rfl
    exact noBracket rfl

/-! ## Chains -/

/-- How a chain is read: an operand, then further operands as long as the link between them
follows, each joined to what has been read on its left. -/
structure Chain (link : Token.Body) (join : Term → Term → Term)
    (part whole : List Token → Outcome Term) (more : Term → List Token → Outcome Term) :
    Prop where
  start : ∀ ts, whole ts = (part ts).bind fun (left, rest) => more left rest
  grow : ∀ left t ts, t.body = link →
    more left (t :: ts) = (part ts).bind fun (right, rest) => more (join left right) rest
  stop : ∀ left ts, front? ts ≠ some link → more left ts = .ok (left, ts)

theorem disjunction_chain :
    Chain (.keyword .disj) .or (fun ts => outcome (conjunction ts))
      (fun ts => outcome (disjunction ts))
      (fun left ts => outcome (moreDisjuncts left ts)) where
  start ts := by
    rw [disjunction]
    cases conjunction ts with
    | error failure => rfl
    | ok parsed =>
      obtain ⟨left, rest, within⟩ := parsed
      simp only [outcome_ok, Except.bind]
      cases moreDisjuncts left rest <;> rfl
  grow left t ts same := by
    obtain ⟨body, lexeme, pos⟩ := t
    cases same
    rw [moreDisjuncts]
    cases conjunction ts with
    | error failure => rfl
    | ok parsed =>
      obtain ⟨right, rest, within⟩ := parsed
      simp only [outcome_ok, Except.bind]
      cases moreDisjuncts (.or left right) rest <;> rfl
  stop left ts noLink := by
    rw [moreDisjuncts]
    · rfl
    · rintro lexeme pos rest rfl
      exact noLink rfl

theorem conjunction_chain :
    Chain (.keyword .conj) .and (fun ts => outcome (negation ts))
      (fun ts => outcome (conjunction ts))
      (fun left ts => outcome (moreConjuncts left ts)) where
  start ts := by
    rw [conjunction]
    cases negation ts with
    | error failure => rfl
    | ok parsed =>
      obtain ⟨left, rest, within⟩ := parsed
      simp only [outcome_ok, Except.bind]
      cases moreConjuncts left rest <;> rfl
  grow left t ts same := by
    obtain ⟨body, lexeme, pos⟩ := t
    cases same
    rw [moreConjuncts]
    cases negation ts with
    | error failure => rfl
    | ok parsed =>
      obtain ⟨right, rest, within⟩ := parsed
      simp only [outcome_ok, Except.bind]
      cases moreConjuncts (.and left right) rest <;> rfl
  stop left ts noLink := by
    rw [moreConjuncts]
    · rfl
    · rintro lexeme pos rest rfl
      exact noLink rfl

/-! ## Optional parts -/

/-- Read on behind a token that announces an optional part, or stay where the part is absent. -/
def optionally {α : Type} (body : Token.Body) (present : List Token → Outcome α) (absent : α)
    (ts : List Token) : Outcome α :=
  if front? ts = some body then present ts.tail else .ok (absent, ts)

theorem optionally_eq_ok {α : Type} {body : Token.Body} {present : List Token → Outcome α}
    {absent value : α} {ts rest : List Token} :
    optionally body present absent ts = .ok (value, rest) ↔
      (∃ t us, ts = t :: us ∧ t.body = body ∧ present us = .ok (value, rest)) ∨
      (front? ts ≠ some body ∧ value = absent ∧ rest = ts) := by
  unfold optionally
  split
  next front =>
    obtain ⟨t, us, rfl, same⟩ := front?_eq_some.1 front
    constructor
    · intro read
      exact .inl ⟨t, us, rfl, same, read⟩
    · rintro (⟨_, _, ⟨rfl, rfl⟩, _, read⟩ | ⟨other, _⟩)
      · exact read
      · exact absurd front other
  next other =>
    constructor
    · rintro ⟨⟩
      exact .inr ⟨other, rfl, rfl⟩
    · rintro (⟨t, us, rfl, same, _⟩ | ⟨_, rfl, rfl⟩)
      · exact absurd (congrArg some same) other
      · rfl

theorem optionally_of_ne {α : Type} {body : Token.Body} {present : List Token → Outcome α}
    {absent : α} {ts : List Token} (other : front? ts ≠ some body) :
    optionally body present absent ts = .ok (absent, ts) :=
  if_neg other

theorem optionally_cons {α : Type} {body : Token.Body} {present : List Token → Outcome α}
    {absent : α} {t : Token} {ts : List Token} (same : t.body = body) :
    optionally body present absent (t :: ts) = present ts :=
  if_pos (congrArg some same)

theorem optionally_mk {α : Type} {body : Token.Body} {present : List Token → Outcome α}
    {absent : α} {lexeme : String} {pos : Position} {ts : List Token} :
    optionally body present absent (⟨body, lexeme, pos⟩ :: ts) = present ts :=
  optionally_cons rfl

/-! ## Select items, sort keys and lists -/

theorem outcome_selectItem (ts : List Token) :
    outcome (selectItem ts) =
      if front? ts = some .star then .error ⟨.wildcardMixed, ts⟩
      else (outcome (operand .selectItem ts)).bind fun (a, afterTerm) =>
        optionally (.keyword .label)
          (fun ts => (outcome (expectName .noLabel ts)).bind fun (name, rest) =>
            .ok (⟨a, some name⟩, rest))
          ⟨a, none⟩ afterTerm := by
  unfold selectItem
  split
  · rfl
  · cases operand .selectItem ts with
    | error failure => rfl
    | ok parsed =>
      obtain ⟨a, afterTerm, within⟩ := parsed
      simp only [outcome_ok, Except.bind]
      split
      next afterAs _ =>
        rw [optionally_mk]
        cases expectName .noLabel afterAs <;> rfl
      next noLabel =>
        rw [optionally_of_ne (front?_ne ?_)]
        · rfl
        · rintro lexeme pos us rfl
          exact noLabel lexeme pos us within rfl .rfl

theorem outcome_orderKey (ts : List Token) :
    outcome (orderKey ts) =
      (outcome (operand .orderKey ts)).bind fun (a, afterTerm) =>
        if front? afterTerm = some (.keyword .descending) then
          .ok (⟨a, .descending⟩, afterTerm.tail)
        else
          optionally (.keyword .ascending) (fun rest => .ok (⟨a, .ascending⟩, rest))
            ⟨a, .ascending⟩ afterTerm := by
  unfold orderKey
  cases operand .orderKey ts with
  | error failure => rfl
  | ok parsed =>
    obtain ⟨a, afterTerm, within⟩ := parsed
    simp only [outcome_ok, Except.bind]
    split
    · rfl
    · rfl
    next noDescending noAscending =>
      rw [if_neg (front?_ne ?_), optionally_of_ne (front?_ne ?_)]
      · rfl
      · rintro lexeme pos us rfl
        exact noAscending lexeme pos us within rfl .rfl
      · rintro lexeme pos us rfl
        exact noDescending lexeme pos us within rfl .rfl

theorem outcome_commaList {α : Type} (part : (ts : List Token) → Reading ts.length α)
    (ts : List Token) :
    outcome (commaList part ts) = (outcome (part ts)).bind fun (first, afterFirst) =>
      optionally .comma
        (fun ts => (outcome (commaList part ts)).bind fun (others, rest) =>
          .ok (first :: others, rest))
        [first] afterFirst := by
  rw [commaList]
  cases part ts with
  | error failure => rfl
  | ok parsed =>
    obtain ⟨first, afterFirst, within⟩ := parsed
    simp only [outcome_ok, Except.bind]
    split
    next afterComma _ =>
      rw [optionally_mk]
      cases commaList part afterComma <;> rfl
    next noComma =>
      rw [optionally_of_ne (front?_ne ?_)]
      · rfl
      · rintro lexeme pos us rfl
        exact noComma lexeme pos us within rfl .rfl

theorem outcome_selection (ts : List Token) :
    outcome (selection ts) =
      if front? ts = some .star then
        if front? ts.tail = some .comma then .error ⟨.wildcardMixed, ts.tail⟩
        else if front? ts.tail = some (.keyword .label) then
          .error ⟨.wildcardLabelled, ts.tail⟩
        else .ok ([⟨.wildcard, none⟩], ts.tail)
      else outcome (commaList selectItem ts) := by
  unfold selection
  split
  next rest =>
    by_cases comma : front? rest = some .comma
    · simp [comma]
    · by_cases label : front? rest = some (.keyword .label)
      · simp [label]
      · simp [comma, label]
  next noStar =>
    rw [if_neg (front?_ne noStar)]

/-! ## Clauses -/

theorem outcome_sourceClause (ts : List Token) :
    outcome (sourceClause ts) =
      optionally (.keyword .source)
        (fun ts => (outcome (expectName .noSourceName ts)).bind fun (_, rest) => .ok ((), rest))
        () ts := by
  unfold sourceClause
  split
  next afterFrom =>
    rw [optionally_mk]
    cases expectName .noSourceName afterFrom <;> rfl
  next absent =>
    rw [optionally_of_ne (front?_ne absent)]
    rfl

theorem outcome_filterClause (ts : List Token) :
    outcome (filterClause ts) =
      optionally (.keyword .filter)
        (fun ts => (outcome (disjunction ts)).bind fun (p, rest) => .ok (some p, rest))
        none ts := by
  unfold filterClause
  split
  next afterWhere =>
    rw [optionally_mk]
    cases disjunction afterWhere <;> rfl
  next absent =>
    rw [optionally_of_ne (front?_ne absent)]
    rfl

theorem outcome_orderClause (ts : List Token) :
    outcome (orderClause ts) =
      optionally (.keyword .order)
        (fun ts => (outcome (expect (.keyword .key) .noOrderKeyword ts)).bind fun (_, afterBy) =>
          outcome (commaList orderKey afterBy))
        [] ts := by
  unfold orderClause
  split
  next afterOrder =>
    rw [optionally_mk]
    cases expect (.keyword .key) .noOrderKeyword afterOrder with
    | error failure => rfl
    | ok parsed =>
      obtain ⟨_, afterBy, within⟩ := parsed
      simp only [outcome_ok, Except.bind]
      cases commaList orderKey afterBy <;> rfl
  next absent =>
    rw [optionally_of_ne (front?_ne absent)]
    rfl

theorem outcome_count_eq_ok {clause : Clause} {ts rest : List Token} {n : Int} :
    outcome (count clause ts) = .ok (n, rest) ↔
      ∃ t, ts = t :: rest ∧ t.body = .number (.int n) ∧ 0 ≤ n := by
  constructor
  · intro read
    unfold count at read
    split at read
    · split at read
      next => cases read
      next notNegative =>
        cases read
        exact ⟨_, rfl, rfl, Int.not_lt.1 notNegative⟩
    · cases read
  · rintro ⟨⟨body, lexeme, pos⟩, rfl, same, notNegative⟩
    cases same
    simp only [count, if_neg (Int.not_lt.2 notNegative), outcome_ok]

theorem outcome_countClause (clause : Clause) (ts : List Token) :
    outcome (countClause clause ts) =
      optionally (.keyword clause.keyword)
        (fun ts => (outcome (count clause ts)).bind fun (n, rest) => .ok (some n, rest))
        none ts := by
  unfold countClause
  split
  next t afterWord =>
    split
    next same =>
      rw [optionally_cons same]
      cases count clause afterWord <;> rfl
    next other =>
      rw [optionally_of_ne (by simpa using other)]
      rfl
  next => rfl

/-! ## Whole queries -/

theorem outcome_bind {bound : Nat} {α β : Type} (reading : Reading bound α)
    (f : α × List Token → Except Failure β) :
    (outcome reading).bind f =
      Except.bind reading fun parsed => f (parsed.value, parsed.rest) := by
  cases reading <;> rfl

theorem read_eq (ts : List Token) :
    read ts =
      (outcome (expect (.keyword .select) .noSelect ts)).bind fun (_, ts) =>
      (outcome (selection ts)).bind fun (items, ts) =>
      (outcome (sourceClause ts)).bind fun (_, ts) =>
      (outcome (filterClause ts)).bind fun (p, ts) =>
      (outcome (orderClause ts)).bind fun (keys, ts) =>
      (outcome (countClause .limit ts)).bind fun (l, ts) =>
      (outcome (countClause .offset ts)).bind fun (o, ts) =>
      (outcome (expect .stop .notAtEnd (optionalSemicolon ts))).bind fun (_, rest) =>
        .ok (⟨items, p, keys, l, o⟩, rest) := by
  simp only [outcome_bind]
  rfl

end LogSelect.Query

import LogSelect.Proofs.Grammar.Outcome

/-!
Whatever the grammar derives is read, and reading stops where the derivation ends.

Each part is read in front of tokens that cannot continue it.  For a chain of operands the
statement says less about what follows: reading goes on with the chain behind the operands already
derived, which is what an induction on derivations can carry.
-/

namespace LogSelect.Query

/-! ## Operands -/

namespace IsOperandToken

variable {t : Token} {a : Term}

theorem ne_star (operandToken : IsOperandToken t a) : t.body ≠ .star := by
  cases operandToken <;> simp_all

theorem ne_lparen (operandToken : IsOperandToken t a) : t.body ≠ .lparen := by
  cases operandToken <;> simp_all

theorem ne_keyword (operandToken : IsOperandToken t a) {keyword : Keyword} :
    t.body ≠ .keyword keyword := by
  cases operandToken <;> simp_all

end IsOperandToken

/-! ## Predicates -/

/-- How the tokens of a predicate are read in front of other tokens. -/
def ReadsAs : Rank → List Token → Term → Prop
  | .disjunction, us, p => ∀ rest, front? rest ≠ some (.keyword .conj) →
      outcome (disjunction (us ++ rest)) = outcome (moreDisjuncts p rest)
  | .conjunction, us, p => ∀ rest,
      outcome (conjunction (us ++ rest)) = outcome (moreConjuncts p rest)
  | .negation, us, p | .comparison, us, p => ∀ rest,
      outcome (negation (us ++ rest)) = .ok (p, rest)

theorem readsAs_conjunction {us : List Token} {p : Term} (reads : ReadsAs .conjunction us p) :
    ReadsAs .disjunction us p := by
  intro rest noConjunct
  rw [disjunction_chain.start, reads rest, conjunction_chain.stop p rest noConjunct]
  rfl

theorem readsAs_or {us vs : List Token} {t : Token} {p q : Term}
    (left : ReadsAs .disjunction us p) (link : t.body = .keyword .disj)
    (right : ReadsAs .conjunction vs q) : ReadsAs .disjunction (us ++ t :: vs) (.or p q) := by
  intro rest noConjunct
  rw [List.append_assoc, List.cons_append, left _ (by simp [link]),
    disjunction_chain.grow p t _ link, right rest, conjunction_chain.stop q rest noConjunct]
  rfl

theorem readsAs_negation {us : List Token} {p : Term} (reads : ReadsAs .negation us p) :
    ReadsAs .conjunction us p := by
  intro rest
  rw [conjunction_chain.start, reads rest]
  rfl

theorem readsAs_and {us vs : List Token} {t : Token} {p q : Term}
    (left : ReadsAs .conjunction us p) (link : t.body = .keyword .conj)
    (right : ReadsAs .negation vs q) : ReadsAs .conjunction (us ++ t :: vs) (.and p q) := by
  intro rest
  rw [List.append_assoc, List.cons_append, left, conjunction_chain.grow p t _ link, right rest]
  rfl

theorem readsAs_group {us : List Token} {l r : Token} {p : Term} (opens : l.body = .lparen)
    (reads : ReadsAs .disjunction us p) (closes : r.body = .rparen) :
    ReadsAs .comparison (l :: (us ++ [r])) p := by
  intro rest
  have close : outcome (expect .rparen .unclosedGroup (r :: rest)) = .ok ((), rest) :=
    outcome_expect_eq_ok.2 ⟨r, rfl, closes⟩
  rw [List.cons_append, List.append_assoc, outcome_negation_lparen _ opens,
    List.singleton_append, reads _ (by simp [closes]),
    disjunction_chain.stop p _ (by simp [closes])]
  simp only [Except.bind, close]

theorem readsAs_compare {l o r : Token} {a b : Term} {op : CompareOp}
    (left : IsOperandToken l a) (same : o.body = .op op) (right : IsOperandToken r b) :
    ReadsAs .comparison [l, o, r] (.compare a op b) := by
  intro rest
  rw [outcome_negation_other (by simpa using left.ne_keyword) (by simpa using left.ne_lparen)]
  exact outcome_comparison_eq_ok.2 ⟨l, o, r, a, op, b, rfl, left, same, right, rfl⟩

theorem Forms.readsAs {rank : Rank} {us : List Token} {p : Term} (forms : Forms rank us p) :
    ReadsAs rank us p := by
  induction forms with
  | conjunction _ ih => exact readsAs_conjunction ih
  | or _ link _ left right => exact readsAs_or left link right
  | negation _ ih => exact readsAs_negation ih
  | and _ link _ left right => exact readsAs_and left link right
  | comparison _ ih => exact ih
  | not isNot _ ih =>
    intro rest
    rw [List.cons_append, outcome_negation_neg _ isNot, ih rest]
    rfl
  | group opens _ closes ih => exact readsAs_group opens ih closes
  | compare left same right => exact readsAs_compare left same right

theorem Forms.outcome_disjunction {us rest : List Token} {p : Term}
    (forms : Forms .disjunction us p) (noConjunct : front? rest ≠ some (.keyword .conj))
    (noDisjunct : front? rest ≠ some (.keyword .disj)) :
    outcome (disjunction (us ++ rest)) = .ok (p, rest) := by
  rw [forms.readsAs rest noConjunct, disjunction_chain.stop p rest noDisjunct]

/-! ## What may follow -/

/-- The tokens that may stand behind the select list, in the order of what they open. -/
def followers : List Token.Body :=
  [.keyword .source, .keyword .filter, .keyword .order, .keyword .limit, .keyword .offset,
    .semicolon, .stop]

/-- The tokens begin with one of the followers, the first `n` of them left out. -/
def Follows (n : Nat) (ts : List Token) : Prop :=
  ∃ body ∈ followers.drop n, front? ts = some body

theorem Follows.ne {n : Nat} {ts : List Token} (follows : Follows n ts) {body : Token.Body}
    (other : body ∉ followers.drop n) : front? ts ≠ some body := by
  obtain ⟨_, member, front⟩ := follows
  rintro same
  rw [front] at same
  exact other (Option.some.inj same ▸ member)

theorem Follows.of_succ {n : Nat} {ts : List Token} (follows : Follows (n + 1) ts) :
    Follows n ts := by
  obtain ⟨body, member, front⟩ := follows
  rw [← List.drop_drop] at member
  exact ⟨body, List.mem_of_mem_drop member, front⟩

theorem Follows.cons {n : Nat} {t : Token} {ts : List Token}
    (opens : t.body ∈ followers.drop n) : Follows n (t :: ts) :=
  ⟨t.body, opens, rfl⟩

/-! ## Lists -/

theorem FormsItem.outcome_selectItem {us rest : List Token} {item : SelectItem}
    (forms : FormsItem us item) (noLabel : front? rest ≠ some (.keyword .label)) :
    outcome (selectItem (us ++ rest)) = .ok (item, rest) := by
  have readOperand : ∀ {t a} (ts : List Token), IsOperandToken t a →
      outcome (operand .selectItem (t :: ts)) = .ok (a, ts) := fun ts operandToken =>
    outcome_operand_eq_ok.2 ⟨_, rfl, operandToken⟩
  cases forms with
  | plain operandToken =>
    rw [Query.outcome_selectItem, if_neg (by simpa using operandToken.ne_star),
      List.singleton_append, readOperand rest operandToken]
    simp only [Except.bind, optionally_of_ne noLabel]
  | @labelled t l n a name operandToken isLabel isName =>
    have readName : outcome (expectName .noLabel (n :: rest)) = .ok (name, rest) :=
      outcome_expectName_eq_ok.2 ⟨n, rfl, isName⟩
    rw [Query.outcome_selectItem, if_neg (by simpa using operandToken.ne_star),
      List.cons_append, readOperand _ operandToken]
    simp only [Except.bind, List.cons_append, List.nil_append, optionally_cons isLabel, readName]

def EndsKey (ts : List Token) : Prop :=
  front? ts ≠ some (.keyword .descending) ∧ front? ts ≠ some (.keyword .ascending)

theorem FormsKey.outcome_orderKey {us rest : List Token} {key : OrderItem}
    (forms : FormsKey us key) (ends : EndsKey rest) :
    outcome (orderKey (us ++ rest)) = .ok (key, rest) := by
  have readOperand : ∀ {t a} (ts : List Token), IsOperandToken t a →
      outcome (operand .orderKey (t :: ts)) = .ok (a, ts) := fun ts operandToken =>
    outcome_operand_eq_ok.2 ⟨_, rfl, operandToken⟩
  cases forms with
  | plain operandToken =>
    rw [Query.outcome_orderKey, List.singleton_append, readOperand rest operandToken]
    simp only [Except.bind, if_neg ends.1, optionally_of_ne ends.2]
  | ascending operandToken isAscending =>
    rw [Query.outcome_orderKey, List.cons_append, readOperand _ operandToken]
    simp only [Except.bind, List.cons_append, List.nil_append, front?_cons, isAscending,
      Option.some.injEq, Token.Body.keyword.injEq, reduceCtorEq, if_false,
      optionally_cons isAscending]
  | descending operandToken isDescending =>
    rw [Query.outcome_orderKey, List.cons_append, readOperand _ operandToken]
    simp only [Except.bind, List.cons_append, List.nil_append, front?_cons, isDescending,
      if_true, List.tail_cons]

theorem FormsList.outcome_commaList {α : Type} {part : (ts : List Token) → Reading ts.length α}
    {Part : List Token → α → Prop} {Ends : List Token → Prop}
    (reads : ∀ {us rest value}, Part us value → Ends rest →
      outcome (part (us ++ rest)) = .ok (value, rest))
    (atComma : ∀ {c rest}, c.body = .comma → Ends (c :: rest)) {us rest : List Token}
    {values : List α} (forms : FormsList Part us values) (ends : Ends rest)
    (noComma : front? rest ≠ some .comma) :
    outcome (commaList part (us ++ rest)) = .ok (values, rest) := by
  induction forms with
  | one first =>
    rw [Query.outcome_commaList, reads first ends]
    simp only [Except.bind, optionally_of_ne noComma]
  | more first isComma _ ih =>
    rw [List.append_assoc, List.cons_append, Query.outcome_commaList,
      reads first (atComma isComma)]
    simp only [Except.bind, optionally_cons isComma, ih]

theorem FormsList.ne_star {us : List Token} {items : List SelectItem}
    (forms : FormsList FormsItem us items) (rest : List Token) :
    front? (us ++ rest) ≠ some .star := by
  have first : ∀ {us item} (rest : List Token), FormsItem us item →
      front? (us ++ rest) ≠ some .star := by
    rintro us item rest (⟨operandToken⟩ | ⟨operandToken, _, _⟩)
    · simpa using operandToken.ne_star
    · simpa using operandToken.ne_star
  cases forms with
  | one item => exact first rest item
  | more item _ _ => simpa using first _ item

theorem FormsSelection.outcome_selection {us rest : List Token} {items : List SelectItem}
    (forms : FormsSelection us items) (follows : Follows 0 rest) :
    outcome (selection (us ++ rest)) = .ok (items, rest) := by
  cases forms with
  | all isStar =>
    rw [Query.outcome_selection, if_pos (by simp [isStar]), List.singleton_append, List.tail_cons,
      if_neg (follows.ne (by decide)), if_neg (follows.ne (by decide))]
  | items forms =>
    rw [Query.outcome_selection, if_neg (forms.ne_star rest)]
    exact forms.outcome_commaList FormsItem.outcome_selectItem
      (fun isComma => by simp [isComma]) (follows.ne (by decide)) (follows.ne (by decide))

/-! ## Clauses -/

theorem FormsSource.outcome_sourceClause {us rest : List Token} (forms : FormsSource us)
    (follows : Follows 1 rest) : outcome (sourceClause (us ++ rest)) = .ok ((), rest) := by
  rw [Query.outcome_sourceClause]
  cases forms with
  | absent => exact optionally_of_ne (follows.ne (by decide))
  | @named f n name isFrom isName =>
    have readName : outcome (expectName .noSourceName (n :: rest)) = .ok (name, rest) :=
      outcome_expectName_eq_ok.2 ⟨n, rfl, isName⟩
    rw [List.cons_append, optionally_cons isFrom, List.singleton_append, readName]
    rfl

theorem FormsFilter.outcome_filterClause {us rest : List Token} {filter : Option Term}
    (forms : FormsFilter us filter) (follows : Follows 2 rest) :
    outcome (filterClause (us ++ rest)) = .ok (filter, rest) := by
  rw [Query.outcome_filterClause]
  cases forms with
  | absent => exact optionally_of_ne (follows.ne (by decide))
  | given isWhere predicate =>
    rw [List.cons_append, optionally_cons isWhere,
      predicate.outcome_disjunction (follows.ne (by decide)) (follows.ne (by decide))]
    rfl

theorem FormsOrder.outcome_orderClause {us rest : List Token} {keys : List OrderItem}
    (forms : FormsOrder us keys) (follows : Follows 3 rest) :
    outcome (orderClause (us ++ rest)) = .ok (keys, rest) := by
  rw [Query.outcome_orderClause]
  cases forms with
  | absent => exact optionally_of_ne (follows.ne (by decide))
  | @given o b ts _ isOrder isBy list =>
    have readBy : outcome (expect (.keyword .key) .noOrderKeyword (b :: (ts ++ rest))) =
        .ok ((), ts ++ rest) := outcome_expect_eq_ok.2 ⟨b, rfl, isBy⟩
    have readKeys : outcome (commaList orderKey (ts ++ rest)) = .ok (keys, rest) :=
      list.outcome_commaList FormsKey.outcome_orderKey
        (fun isComma => ⟨by simp [isComma], by simp [isComma]⟩)
        ⟨follows.ne (by decide), follows.ne (by decide)⟩ (follows.ne (by decide))
    rw [List.cons_append, optionally_cons isOrder, List.cons_append, readBy]
    simp only [Except.bind, readKeys]

theorem FormsCount.outcome_countClause {clause : Clause} {us rest : List Token}
    {count : Option Int} (forms : FormsCount clause us count)
    (absent : front? rest ≠ some (.keyword clause.keyword)) :
    outcome (countClause clause (us ++ rest)) = .ok (count, rest) := by
  rw [Query.outcome_countClause]
  cases forms with
  | absent => exact optionally_of_ne absent
  | @given w t n isWord isNumber notNegative =>
    have readCount : outcome (Query.count clause (t :: rest)) = .ok (n, rest) :=
      outcome_count_eq_ok.2 ⟨t, rfl, isNumber, notNegative⟩
    rw [List.cons_append, optionally_cons isWord, List.singleton_append, readCount]
    rfl

theorem FormsEnd.optionalSemicolon {us rest : List Token} {stop : Token} (forms : FormsEnd us)
    (isStop : stop.body = .stop) :
    optionalSemicolon (us ++ stop :: rest) = stop :: rest := by
  obtain ⟨body, lexeme, pos⟩ := stop
  cases isStop
  cases forms with
  | absent => rfl
  | @semicolon t isSemicolon =>
    obtain ⟨body, lexeme, pos⟩ := t
    cases isSemicolon
    rfl

/-! ## Queries -/

theorem FormsSource.follows {us rest : List Token} (forms : FormsSource us)
    (follows : Follows 1 rest) : Follows 0 (us ++ rest) := by
  cases forms with
  | absent => exact follows.of_succ
  | named isFrom _ => exact .cons (by simp [isFrom, followers])

theorem FormsFilter.follows {us rest : List Token} {filter : Option Term}
    (forms : FormsFilter us filter) (follows : Follows 2 rest) : Follows 1 (us ++ rest) := by
  cases forms with
  | absent => exact follows.of_succ
  | given isWhere _ => exact .cons (by simp [isWhere, followers])

theorem FormsOrder.follows {us rest : List Token} {keys : List OrderItem}
    (forms : FormsOrder us keys) (follows : Follows 3 rest) : Follows 2 (us ++ rest) := by
  cases forms with
  | absent => exact follows.of_succ
  | given isOrder _ _ => exact .cons (by simp [isOrder, followers])

theorem FormsCount.follows {clause : Clause} {us rest : List Token} {count : Option Int} {n : Nat}
    (forms : FormsCount clause us count)
    (opens : .keyword clause.keyword ∈ followers.drop n) (follows : Follows (n + 1) rest) :
    Follows n (us ++ rest) := by
  cases forms with
  | absent => exact follows.of_succ
  | given isWord _ _ => exact .cons (by rwa [isWord])

theorem FormsEnd.follows {us rest : List Token} {stop : Token} (forms : FormsEnd us)
    (isStop : stop.body = .stop) : Follows 5 (us ++ stop :: rest) := by
  cases forms with
  | absent => exact .cons (by simp [isStop, followers])
  | semicolon isSemicolon => exact .cons (by simp [isSemicolon, followers])

/-- A derived query is read in front of the token that ends the text. -/
theorem Derives.read {us rest : List Token} {stop : Token} {query : Query}
    (derives : Derives us query) (isStop : stop.body = .stop) :
    Query.read (us ++ stop :: rest) = .ok (query, rest) := by
  cases derives with
  | @intro s select source filter order limit offset semi items p keys l o isSelect formsSelect
      formsSource formsFilter formsOrder formsLimit formsOffset formsEnd =>
    have follows₅ : Follows 5 (semi ++ stop :: rest) := formsEnd.follows isStop
    have follows₄ := formsOffset.follows (by decide) follows₅
    have follows₃ := formsLimit.follows (by decide) follows₄
    have follows₂ := formsOrder.follows follows₃
    have follows₁ := formsFilter.follows follows₂
    have follows₀ := formsSource.follows follows₁
    have readSelect : ∀ ts,
        outcome (expect (.keyword .select) .noSelect (s :: ts)) = .ok ((), ts) :=
      fun ts => outcome_expect_eq_ok.2 ⟨s, rfl, isSelect⟩
    have readStop : outcome (expect .stop .notAtEnd (optionalSemicolon (semi ++ stop :: rest))) =
        .ok ((), rest) :=
      outcome_expect_eq_ok.2 ⟨stop, formsEnd.optionalSemicolon isStop, isStop⟩
    simp only [List.cons_append, List.append_assoc, read_eq, Except.bind, readSelect,
      formsSelect.outcome_selection follows₀, formsSource.outcome_sourceClause follows₁,
      formsFilter.outcome_filterClause follows₂, formsOrder.outcome_orderClause follows₃,
      formsLimit.outcome_countClause (follows₄.ne (by decide)),
      formsOffset.outcome_countClause (follows₅.ne (by decide)), readStop]

end LogSelect.Query

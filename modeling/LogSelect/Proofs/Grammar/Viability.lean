import LogSelect.Proofs.Grammar.Lookahead
import LogSelect.Proofs.Grammar.Soundness

/-!
Wherever a reading fails, the tokens in front of the offending one can be completed.

For each part of a query the completion is a part of the same kind, so the parts around it are
completed by what they still need: an operand, an operator, a closing bracket, or nothing.  The
readings of single tokens take nothing where they fail, and sequences say how the part in front is
completed without the ones behind it.
-/

namespace LogSelect.Query

/-- If the reading fails, the tokens it passes over are the beginning of a part. -/
def Completes {α : Type} (ts : List Token) (read : Outcome α) (Part : List Token → α → Prop) :
    Prop :=
  ∀ failure, read = .error failure →
    ∃ us vs value, ts = us ++ failure.rest ∧ Part (us ++ vs) value

section Completes

variable {α β : Type} {ts : List Token} {read : Outcome α} {Part : List Token → α → Prop}
  {Whole : List Token → β → Prop}

theorem completes_ok (value : α × List Token) : Completes ts (.ok value) Part :=
  fun _ fails => nomatch fails

theorem ReadsOne.completes {readOne : List Token → Outcome α} (one : ReadsOne readOne)
    {us : List Token} {a : α} (part : Part us a) : Completes ts (readOne ts) Part := by
  intro failure fails
  exact ⟨[], us, a, (one.rest_eq fails).symm, part⟩

theorem Completes.cons {t : Token} (completes : Completes ts read fun us => Part (t :: us)) :
    Completes (t :: ts) read Part := by
  intro failure fails
  obtain ⟨us, vs, a, rfl, part⟩ := completes failure fails
  exact ⟨t :: us, vs, a, rfl, part⟩

/-- In a sequence the first part is completed to the whole by what stands for the others. -/
theorem Completes.bind {next : α × List Token → Outcome β} (completes : Completes ts read Part)
    (takes : Takes ts read Part) (alone : ∀ us a, Part us a → ∃ vs b, Whole (us ++ vs) b)
    (second : ∀ us a rest, read = .ok (a, rest) → Part us a →
      Completes rest (next (a, rest)) fun vs => Whole (us ++ vs)) :
    Completes ts (read.bind next) Whole := by
  intro failure fails
  rcases bind_eq_error.1 fails with fails | ⟨⟨a, rest⟩, isRead, fails⟩
  · obtain ⟨us, vs, a, split, part⟩ := completes failure fails
    obtain ⟨ws, b, whole⟩ := alone (us ++ vs) a part
    exact ⟨us, vs ++ ws, b, split, by simpa using whole⟩
  · obtain ⟨us, rfl, part⟩ := takes a rest isRead
    obtain ⟨vs, ws, b, rfl, whole⟩ := second us a rest isRead part failure fails
    exact ⟨us ++ vs, ws, b, by simp, by simpa using whole⟩

theorem Completes.last {next : α × List Token → Outcome β} (completes : Completes ts read Part)
    (finish : ∀ a rest, ∃ b, next (a, rest) = .ok (b, rest) ∧ ∀ us, Part us a → Whole us b) :
    Completes ts (read.bind next) Whole := by
  intro failure fails
  rcases bind_eq_error.1 fails with fails | ⟨⟨a, rest⟩, _, fails⟩
  · obtain ⟨us, vs, a, split, part⟩ := completes failure fails
    obtain ⟨b, _, whole⟩ := finish a []
    exact ⟨us, vs, b, split, whole (us ++ vs) part⟩
  · obtain ⟨b, succeeds, _⟩ := finish a rest
    cases succeeds.symm.trans fails

theorem Completes.optionally {body : Token.Body} {present : List Token → Outcome α} {absent : α}
    (completes : ∀ t us, ts = t :: us → t.body = body →
      Completes us (present us) fun vs => Part (t :: vs)) :
    Completes ts (optionally body present absent ts) Part := by
  by_cases front : front? ts = some body
  · obtain ⟨t, us, rfl, same⟩ := front?_eq_some.1 front
    rw [optionally_cons same]
    exact (completes t us rfl same).cons
  · rw [optionally_of_ne front]
    exact completes_ok _

end Completes

/-! ## Single tokens -/

inductive Single {α : Type} (Stands : Token → α → Prop) : List Token → α → Prop where
  | intro {t a} : Stands t a → Single Stands [t] a

theorem expect_takes (body : Token.Body) (complaint : Complaint) (ts : List Token) :
    Takes ts (outcome (expect body complaint ts)) (Single fun t _ => t.body = body) := by
  intro _ rest read
  obtain ⟨t, rfl, same⟩ := outcome_expect_eq_ok.1 read
  exact ⟨[t], rfl, .intro same⟩

theorem operand_takes (role : Role) (ts : List Token) :
    Takes ts (outcome (operand role ts)) (Single IsOperandToken) := by
  intro a rest read
  obtain ⟨t, rfl, operandToken⟩ := outcome_operand_eq_ok.1 read
  exact ⟨[t], rfl, .intro operandToken⟩

theorem operator_takes (ts : List Token) :
    Takes ts (operator ts) (Single fun t op => t.body = .op op) := by
  intro op rest read
  obtain ⟨t, rfl, same⟩ := operator_eq_ok.1 read
  exact ⟨[t], rfl, .intro same⟩

def sample (body : Token.Body) (lexeme : String) : Token :=
  ⟨body, lexeme, .start⟩

/-- A name, which completes whatever needs an operand. -/
def sampleName : Token :=
  sample (.name "a") "a"

theorem sampleName_operand : IsOperandToken sampleName (.column "a") :=
  .name rfl

theorem expect_completes (body : Token.Body) (complaint : Complaint) (ts : List Token) :
    Completes ts (outcome (expect body complaint ts)) (Single fun t _ => t.body = body) :=
  (readsOne_expect body complaint).completes (.intro (t := sample body "") (a := ()) rfl)

theorem expectName_completes (complaint : Complaint) (ts : List Token) :
    Completes ts (outcome (expectName complaint ts)) (Single fun t name => t.body = .name name) :=
  (readsOne_expectName complaint).completes (.intro (t := sampleName) rfl)

theorem operand_completes (role : Role) (ts : List Token) :
    Completes ts (outcome (operand role ts)) (Single IsOperandToken) :=
  (readsOne_operand role).completes (.intro sampleName_operand)

theorem operator_completes (ts : List Token) :
    Completes ts (operator ts) (Single fun t op => t.body = .op op) :=
  readsOne_operator.completes (.intro (t := sample (.op .eq) "=") rfl)

theorem count_completes (clause : Clause) (ts : List Token) :
    Completes ts (outcome (count clause ts))
      (Single fun t n => t.body = .number (.int n) ∧ 0 ≤ n) :=
  (readsOne_count clause).completes
    (.intro (t := sample (.number (.int 0)) "0") ⟨rfl, Int.le_refl 0⟩)

/-! ## Predicates -/

theorem comparison_completes (ts : List Token) :
    Completes ts (outcome (comparison ts)) (Forms .comparison) := by
  have equals : (sample (.op .eq) "=").body = .op .eq := rfl
  rw [outcome_comparison]
  apply Completes.bind (operand_completes _ ts) (operand_takes _ ts)
  · rintro _ a ⟨left⟩
    exact ⟨[_, _], _, .compare left equals sampleName_operand⟩
  rintro _ a afterLeft _ ⟨left⟩
  apply Completes.bind (operator_completes afterLeft) (operator_takes afterLeft)
  · rintro _ op ⟨same⟩
    exact ⟨[_], _, .compare left same sampleName_operand⟩
  rintro _ op afterOp _ ⟨same⟩
  apply Completes.last (operand_completes _ afterOp)
  intro b rest
  refine ⟨_, rfl, ?_⟩
  rintro _ ⟨right⟩
  exact .compare left same right

section Chain

variable {link : Token.Body} {join : Term → Term → Term} {part whole : List Token → Outcome Term}
  {more : Term → List Token → Outcome Term} {Part Whole : List Token → Term → Prop} {n : Nat}

theorem Chain.more_completes (chain : Chain link join part whole more)
    (shorter : ∀ ts p rest, part ts = .ok (p, rest) → rest.length < ts.length)
    (extend : ∀ {ts t us p q}, Whole ts p → t.body = link → Part us q →
      Whole (ts ++ t :: us) (join p q))
    (takes : ∀ ts, ts.length < n → Takes ts (part ts) Part)
    (parts : ∀ ts, ts.length < n → Completes ts (part ts) Part) {ls ts : List Token} {left : Term}
    (bound : ts.length ≤ n) (before : Whole ls left) :
    Completes ts (more left ts) fun us p => Whole (ls ++ us) p := by
  induction h : ts.length using Nat.strongRecOn generalizing ls ts left with
  | ind size ih =>
    rw [chain.more_eq]
    apply Completes.optionally
    rintro t us rfl same
    simp only [List.length_cons] at bound h
    apply Completes.bind (parts us (by omega)) (takes us (by omega))
    · intro qs q formsRight
      have grown := extend before same formsRight
      exact ⟨[], join left q, by simpa using grown⟩
    · intro qs q rest readRight formsRight
      have less := shorter us q rest readRight
      have completes := ih rest.length (by omega) (by omega) (extend before same formsRight) rfl
      simpa using completes

theorem Chain.whole_completes (chain : Chain link join part whole more)
    (shorter : ∀ ts p rest, part ts = .ok (p, rest) → rest.length < ts.length)
    (single : ∀ {ts p}, Part ts p → Whole ts p)
    (extend : ∀ {ts t us p q}, Whole ts p → t.body = link → Part us q →
      Whole (ts ++ t :: us) (join p q))
    (takes : ∀ ts, ts.length < n → Takes ts (part ts) Part)
    (parts : ∀ ts, ts.length < n → Completes ts (part ts) Part) {ts : List Token}
    (bound : ts.length < n) :
    Completes ts (whole ts) Whole := by
  rw [chain.start]
  apply Completes.bind (parts ts bound) (takes ts bound)
  · intro us p forms
    exact ⟨[], p, by simpa using single forms⟩
  · intro us p rest readLeft forms
    have less := shorter ts p rest readLeft
    exact chain.more_completes shorter extend takes parts (by omega) (single forms)

end Chain

section Predicates

variable {n : Nat}
  (negations : ∀ ts, ts.length < n → Completes ts (outcome (negation ts)) (Forms .negation))
  {ts : List Token} (bound : ts.length < n)

include negations bound

theorem conjunction_completes : Completes ts (outcome (conjunction ts)) (Forms .conjunction) :=
  conjunction_chain.whole_completes (fun _ _ _ read => length_rest_lt read) .negation .and
    (fun ts _ => negation_takes ts) negations bound

theorem disjunction_completes : Completes ts (outcome (disjunction ts)) (Forms .disjunction) :=
  disjunction_chain.whole_completes (fun _ _ _ read => length_rest_lt read) .conjunction .or
    (fun _ bound => conjunction_takes (fun ts _ => negation_takes ts) bound)
    (fun _ bound => conjunction_completes negations bound) bound

end Predicates

theorem negation_completes (ts : List Token) :
    Completes ts (outcome (negation ts)) (Forms .negation) := by
  have close : (sample .rparen ")").body = .rparen := rfl
  induction ts using (measure List.length).wf.induction with
  | h ts shorter =>
    by_cases negated : front? ts = some (.keyword .neg)
    · obtain ⟨t, us, rfl, same⟩ := front?_eq_some.1 negated
      rw [outcome_negation_neg us same]
      apply Completes.cons
      apply Completes.last (shorter us (Nat.lt_succ_self _))
      intro p rest
      refine ⟨.not p, rfl, ?_⟩
      intro qs forms
      exact .not same forms
    by_cases bracketed : front? ts = some .lparen
    · obtain ⟨l, us, rfl, opens⟩ := front?_eq_some.1 bracketed
      rw [outcome_negation_lparen us opens]
      apply Completes.cons
      apply Completes.bind (disjunction_completes shorter (Nat.lt_succ_self us.length))
        (predicate_takes us)
      · intro qs p forms
        exact ⟨[_], p, .comparison (.group opens forms close)⟩
      intro qs p afterTerm _ forms
      apply Completes.last (expect_completes _ _ afterTerm)
      intro _ rest
      refine ⟨p, rfl, ?_⟩
      rintro _ ⟨closes⟩
      exact .comparison (.group opens forms closes)
    · rw [outcome_negation_other negated bracketed]
      intro failure fails
      obtain ⟨us, vs, p, split, forms⟩ := comparison_completes ts failure fails
      exact ⟨us, vs, p, split, .comparison forms⟩

theorem predicate_completes (ts : List Token) :
    Completes ts (outcome (disjunction ts)) (Forms .disjunction) :=
  disjunction_completes (fun us _ => negation_completes us) (Nat.lt_succ_self ts.length)

/-! ## Lists and clauses -/

theorem selectItem_completes (ts : List Token) :
    Completes ts (outcome (selectItem ts)) FormsItem := by
  rw [outcome_selectItem]
  split
  · rintro _ ⟨⟩
    exact ⟨[], [sampleName], _, rfl, .plain sampleName_operand⟩
  apply Completes.bind (operand_completes _ ts) (operand_takes _ ts)
  · rintro _ a ⟨operandToken⟩
    exact ⟨[], _, .plain operandToken⟩
  rintro _ a afterTerm _ ⟨operandToken⟩
  apply Completes.optionally
  rintro l us rfl isLabel
  apply Completes.last (expectName_completes _ us)
  intro name rest
  refine ⟨⟨a, some name⟩, rfl, ?_⟩
  rintro _ ⟨isName⟩
  exact .labelled operandToken isLabel isName

theorem orderKey_completes (ts : List Token) :
    Completes ts (outcome (orderKey ts)) FormsKey := by
  rw [outcome_orderKey]
  apply Completes.bind (operand_completes _ ts) (operand_takes _ ts)
  · rintro _ a ⟨operandToken⟩
    exact ⟨[], _, .plain operandToken⟩
  intro _ a afterTerm _ _
  dsimp only
  split
  · exact completes_ok _
  · apply Completes.optionally
    intro d us _ _
    exact completes_ok _

theorem commaList_completes {α : Type} {part : (ts : List Token) → Reading ts.length α}
    {Part : List Token → α → Prop} (takes : ∀ ts, Takes ts (outcome (part ts)) Part)
    (parts : ∀ ts, Completes ts (outcome (part ts)) Part) (ts : List Token) :
    Completes ts (outcome (commaList part ts)) (FormsList Part) := by
  induction ts using (measure List.length).wf.induction with
  | h ts shorter =>
    rw [outcome_commaList]
    apply Completes.bind (parts ts) (takes ts)
    · intro us a forms
      exact ⟨[], [a], by simpa using FormsList.one forms⟩
    intro us a afterFirst readFirst formsFirst
    have less := length_rest_lt readFirst
    apply Completes.optionally
    rintro c vs rfl isComma
    apply Completes.last (shorter vs (Nat.lt_of_succ_lt less))
    intro others rest
    refine ⟨a :: others, rfl, ?_⟩
    intro ws formsOthers
    exact .more formsFirst isComma formsOthers

theorem selection_completes (ts : List Token) :
    Completes ts (outcome (selection ts)) FormsSelection := by
  rw [outcome_selection]
  split
  next front =>
    obtain ⟨t, us, rfl, isStar⟩ := front?_eq_some.1 front
    have complete (complaint : Complaint) :
        Completes (t :: us) (.error ⟨complaint, us⟩) FormsSelection := by
      rintro _ ⟨⟩
      exact ⟨[t], [], _, rfl, .all isStar⟩
    rw [List.tail_cons]
    split
    · exact complete _
    split
    · exact complete _
    · exact completes_ok _
  next =>
    intro failure fails
    obtain ⟨us, vs, items, split, forms⟩ :=
      commaList_completes selectItem_takes selectItem_completes ts failure fails
    exact ⟨us, vs, items, split, .items forms⟩

theorem sourceClause_completes (ts : List Token) :
    Completes ts (outcome (sourceClause ts)) fun us _ => FormsSource us := by
  rw [outcome_sourceClause]
  apply Completes.optionally
  rintro f us rfl isFrom
  apply Completes.last (expectName_completes _ us)
  intro name rest
  refine ⟨(), rfl, ?_⟩
  rintro _ ⟨isName⟩
  exact .named isFrom isName

theorem filterClause_completes (ts : List Token) :
    Completes ts (outcome (filterClause ts)) FormsFilter := by
  rw [outcome_filterClause]
  apply Completes.optionally
  rintro w us rfl isWhere
  apply Completes.last (predicate_completes us)
  intro p rest
  refine ⟨some p, rfl, ?_⟩
  intro vs forms
  exact .given isWhere forms

theorem orderClause_completes (ts : List Token) :
    Completes ts (outcome (orderClause ts)) FormsOrder := by
  rw [outcome_orderClause]
  apply Completes.optionally
  rintro o us rfl isOrder
  apply Completes.bind (expect_completes _ _ us) (expect_takes _ _ us)
  · rintro _ _ ⟨isBy⟩
    exact ⟨[_], _, .given isOrder isBy (.one (.plain sampleName_operand))⟩
  · rintro _ _ afterBy _ ⟨isBy⟩ failure fails
    obtain ⟨qs, vs, keys, split, forms⟩ :=
      commaList_completes orderKey_takes orderKey_completes afterBy failure fails
    exact ⟨qs, vs, keys, split, .given isOrder isBy forms⟩

theorem countClause_completes (clause : Clause) (ts : List Token) :
    Completes ts (outcome (countClause clause ts)) (FormsCount clause) := by
  rw [outcome_countClause]
  apply Completes.optionally
  rintro w us rfl isWord
  apply Completes.last (count_completes clause us)
  intro n rest
  refine ⟨some n, rfl, ?_⟩
  rintro _ ⟨isNumber, notNegative⟩
  exact .given isWord isNumber notNegative

theorem end_completes (ts : List Token) :
    Completes ts (outcome (expect .stop .notAtEnd (optionalSemicolon ts)))
      fun us _ => FormsEnd us := by
  intro failure fails
  have all := (readsOne_expect _ _).rest_eq fails
  obtain ⟨us, split, forms⟩ := optionalSemicolon_takes ts
  exact ⟨us, [], (), by rw [all]; exact split, by simpa using forms⟩

/-! ## Queries -/

/-- What is read of a query before a failure is the beginning of a query without the clauses that
have not been reached. -/
theorem read_completes (ts : List Token) : Completes ts (read ts) Derives := by
  have star : (sample .star "*").body = .star := rfl
  rw [read_eq]
  apply Completes.bind (expect_completes _ _ ts) (expect_takes _ _ ts)
  · rintro _ _ ⟨isSelect⟩
    exact ⟨[_], _, .intro isSelect (.all star) .absent .absent .absent .absent .absent .absent⟩
  rintro _ _ afterSelect _ ⟨isSelect⟩
  apply Completes.bind (selection_completes afterSelect) (selection_takes afterSelect)
  · intro us items forms
    have derives := Derives.intro isSelect forms .absent .absent .absent .absent .absent .absent
    exact ⟨[], _, by simpa using derives⟩
  intro select items afterItems _ formsSelect
  apply Completes.bind (sourceClause_completes afterItems) (sourceClause_takes afterItems)
  · intro us _ forms
    have derives :=
      Derives.intro isSelect formsSelect forms .absent .absent .absent .absent .absent
    exact ⟨[], _, by simpa using derives⟩
  intro source _ afterSource _ formsSource
  apply Completes.bind (filterClause_completes afterSource) (filterClause_takes afterSource)
  · intro us p forms
    have derives :=
      Derives.intro isSelect formsSelect formsSource forms .absent .absent .absent .absent
    exact ⟨[], _, by simpa using derives⟩
  intro filter p afterFilter _ formsFilter
  apply Completes.bind (orderClause_completes afterFilter) (orderClause_takes afterFilter)
  · intro us keys forms
    have derives :=
      Derives.intro isSelect formsSelect formsSource formsFilter forms .absent .absent .absent
    exact ⟨[], _, by simpa using derives⟩
  intro order keys afterOrder _ formsOrder
  apply Completes.bind (countClause_completes _ afterOrder) (countClause_takes _ afterOrder)
  · intro us l forms
    have derives :=
      Derives.intro isSelect formsSelect formsSource formsFilter formsOrder forms .absent .absent
    exact ⟨[], _, by simpa using derives⟩
  intro limit l afterLimit _ formsLimit
  apply Completes.bind (countClause_completes _ afterLimit) (countClause_takes _ afterLimit)
  · intro us o forms
    have derives :=
      Derives.intro isSelect formsSelect formsSource formsFilter formsOrder formsLimit forms
        .absent
    exact ⟨[], _, by simpa using derives⟩
  intro offset o afterOffset _ formsOffset
  apply Completes.last (end_completes afterOffset)
  intro _ rest
  refine ⟨⟨items, p, keys, l, o⟩, rfl, ?_⟩
  intro us forms
  simpa using Derives.intro isSelect formsSelect formsSource formsFilter formsOrder formsLimit
    formsOffset forms

end LogSelect.Query

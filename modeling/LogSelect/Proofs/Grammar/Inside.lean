import LogSelect.Proofs.Grammar.Compositional
import LogSelect.Proofs.Grammar.Cursor

/-!
A walk through a list of tokens ends, reads what the grammar reads, and stays inside the list.

Every walk traces a reading: from a cursor whose remaining tokens are those of the reading it
proceeds by safe steps to a cursor whose remaining tokens are the rest of the reading.  Walks of
single tokens do, and sequences, choices and recursion keep it.
-/

namespace LogSelect.Query

variable {tokens : TokenList} {α β : Type} {ts us : List Token} {t : Token}
  {cursor cursor' : Cursor}

namespace TokenList

def remaining (tokens : TokenList) (index : Nat) : List Token :=
  tokens.all.drop index

variable {index : Nat}

theorem remaining_eq (inside : index ≤ tokens.front.length) :
    tokens.remaining index = tokens.seen index :: tokens.remaining (index + 1) := by
  have bound : index < tokens.all.length := by
    rw [all, List.length_append, List.length_singleton]
    omega
  rw [remaining, List.drop_eq_getElem_cons bound, seen, List.getElem?_eq_getElem bound]
  rfl

theorem lt_of_seen (inside : index ≤ tokens.front.length)
    (inner : (tokens.seen index).body ≠ .stop) : index < tokens.front.length := by
  refine Nat.lt_of_le_of_ne inside fun same => inner ?_
  rw [seen, all, same, List.getElem?_concat_length]
  exact tokens.isStop

theorem eq_of_seen (inside : index ≤ tokens.front.length)
    (isStop : (tokens.seen index).body = .stop) : index = tokens.front.length := by
  refine Nat.le_antisymm inside (Nat.not_lt.1 fun bound => ?_)
  have isInner : tokens.seen index = tokens.front[index] := by
    rw [seen, all, List.getElem?_append_left bound, List.getElem?_eq_getElem bound]
    rfl
  exact tokens.inner _ (List.getElem_mem bound) (isInner ▸ isStop)

theorem remaining_end : tokens.remaining (tokens.front.length + 1) = [] := by
  have bound : tokens.all.length = tokens.front.length + 1 := by
    rw [all, List.length_append, List.length_singleton]
  exact List.drop_eq_nil_of_le (Nat.le_of_eq bound)

end TokenList

theorem Proceeds.inside (proceeds : Proceeds tokens cursor cursor')
    (inside : cursor.index ≤ tokens.front.length) : cursor'.index ≤ tokens.front.length := by
  induction proceeds with
  | refl => exact inside
  | tail _ step ih =>
    cases step with
    | look bound => exact bound
    | take bound => exact bound

/-! ## Runs -/

/-- A run from a cursor has the given outcome, and has come to it by safe steps. -/
def Ends (tokens : TokenList) (cursor : Cursor) (run : Option (Except QueryError α × Cursor)) :
    Outcome α → Prop
  | .ok (a, rest) => ∃ cursor', run = some (.ok a, cursor') ∧
      Proceeds tokens cursor cursor' ∧ tokens.remaining cursor'.index = rest
  | .error failure => ∃ cursor',
      run = some (.error (.grammar failure.complaint (tokens.seen cursor'.index)), cursor') ∧
      Proceeds tokens cursor cursor' ∧ tokens.remaining cursor'.index = failure.rest

theorem Ends.after {run : Option (Except QueryError α × Cursor)} {outcome : Outcome α}
    (ends : Ends tokens cursor' run outcome) (proceeds : Proceeds tokens cursor cursor') :
    Ends tokens cursor run outcome := by
  cases outcome with
  | error failure =>
    obtain ⟨last, isRun, more, same⟩ := ends
    exact ⟨last, isRun, proceeds.trans more, same⟩
  | ok read =>
    obtain ⟨last, isRun, more, same⟩ := ends
    exact ⟨last, isRun, proceeds.trans more, same⟩

/-- From every cursor inside the list at which the tokens `ts` remain, a walk has the outcome. -/
def Traces (tokens : TokenList) (walk : Walk α) (outcome : Outcome α) (ts : List Token) : Prop :=
  ∀ cursor, cursor.index ≤ tokens.front.length → tokens.remaining cursor.index = ts →
    Ends tokens cursor (walk tokens cursor) outcome

namespace Traces

open Walk

variable {walk : Walk α} {outcome : Outcome α}

/-! ## Sequences and choices -/

theorem pure (a : α) : Traces tokens (pure a) (.ok (a, ts)) ts :=
  fun cursor _ same => ⟨cursor, rfl, .refl, same⟩

theorem bind {f : α → Walk β} {next : α × List Token → Outcome β}
    (first : Traces tokens walk outcome ts)
    (second : ∀ a rest, outcome = .ok (a, rest) → Traces tokens (f a) (next (a, rest)) rest) :
    Traces tokens (walk >>= f) (outcome.bind next) ts := by
  intro cursor inside same
  have ends := first cursor inside same
  cases outcome with
  | error failure =>
    obtain ⟨last, isRun, proceeds, same⟩ := ends
    exact ⟨last, bind_error isRun, proceeds, same⟩
  | ok read =>
    obtain ⟨a, rest⟩ := read
    obtain ⟨cursor', isRun, proceeds, same⟩ := ends
    rw [bind_ok isRun]
    exact (second a rest rfl cursor' (proceeds.inside inside) same).after proceeds

theorem of_cons (cons : ∀ t us, ts = t :: us → Traces tokens walk outcome ts) :
    Traces tokens walk outcome ts := by
  intro cursor inside same
  exact cons _ _ (same.symm.trans (TokenList.remaining_eq inside)) cursor inside same

theorem peek {f : Token → Walk α} (next : Traces tokens (f t) outcome (t :: us)) :
    Traces tokens (peek >>= f) outcome (t :: us) := by
  rintro ⟨index, events⟩ inside same
  have isSeen : tokens.seen index = t :=
    (List.cons.inj ((TokenList.remaining_eq inside).symm.trans same)).1
  have run : Walk.peek tokens ⟨index, events⟩ = some (.ok t, ⟨index, events ++ [.look index]⟩) := by
    rw [← isSeen]
    rfl
  have step : SafeStep tokens ⟨index, events⟩ ⟨index, events ++ [.look index]⟩ := .look inside
  rw [bind_ok run]
  exact (next ⟨index, events ++ [.look index]⟩ inside same).after (.single step)

theorem advance {f : Unit → Walk α} (inner : t.body ≠ .stop)
    (next : Traces tokens (f ()) outcome us) :
    Traces tokens (advance >>= f) outcome (t :: us) := by
  rintro ⟨index, events⟩ inside same
  obtain ⟨isSeen, rest⟩ := List.cons.inj ((TokenList.remaining_eq inside).symm.trans same)
  have bound : index < tokens.front.length := TokenList.lt_of_seen inside (isSeen ▸ inner)
  have run : Walk.advance tokens ⟨index, events⟩ =
      some (.ok (), ⟨index + 1, events ++ [.take index]⟩) := rfl
  have step : SafeStep tokens ⟨index, events⟩ ⟨index + 1, events ++ [.take index]⟩ := .take bound
  rw [bind_ok run]
  exact (next ⟨index + 1, _⟩ bound rest).after (.single step)

theorem consume {f : Token → Walk α} (inner : t.body ≠ .stop)
    (next : Traces tokens (f t) outcome us) :
    Traces tokens (consume >>= f) outcome (t :: us) := by
  rw [Walk.consume, bind_assoc]
  apply peek
  rw [bind_assoc]
  apply advance inner
  rwa [pure_bind]

theorem complain (complaint : Complaint) :
    Traces tokens (complain complaint : Walk α) (.error ⟨complaint, t :: us⟩) (t :: us) := by
  apply peek
  intro cursor inside same
  have isSeen : tokens.seen cursor.index = t :=
    (List.cons.inj ((TokenList.remaining_eq inside).symm.trans same)).1
  refine ⟨cursor, ?_, .refl, same⟩
  rw [← isSeen]
  rfl

theorem isAt {body : Token.Body} {f : Bool → Walk α}
    (next : Traces tokens (f (t.body = body)) outcome (t :: us)) :
    Traces tokens (isAt body >>= f) outcome (t :: us) := by
  rw [Walk.isAt, bind_assoc]
  apply peek
  rwa [pure_bind]

theorem accept {body : Token.Body} {f : Bool → Walk α} {other : Outcome α} (inner : body ≠ .stop)
    (present : ∀ t us, ts = t :: us → Traces tokens (f true) outcome us)
    (absent : front? ts ≠ some body → Traces tokens (f false) other ts) :
    Traces tokens (accept body >>= f)
      (if front? ts = some body then outcome else other) ts := by
  apply of_cons
  rintro t us rfl
  rw [Walk.accept, bind_assoc]
  apply isAt
  by_cases same : t.body = body
  · simp only [same, front?_cons, decide_true, if_true]
    rw [bind_assoc]
    apply consume (same ▸ inner)
    rw [pure_bind]
    exact present t us rfl
  · have other : front? (t :: us) ≠ some body := by simpa using same
    simp only [same, decide_false, Bool.false_eq_true, if_false]
    rw [if_neg other, pure_bind]
    exact absent other

theorem optionally {body : Token.Body} {f : Bool → Walk α} {read : List Token → Outcome α} {a : α}
    (inner : body ≠ .stop) (present : ∀ t us, ts = t :: us → Traces tokens (f true) (read us) us)
    (absent : Traces tokens (f false) (.ok (a, ts)) ts) :
    Traces tokens (Walk.accept body >>= f) (optionally body read a ts) ts :=
  accept inner (fun t us split => by rw [split]; exact present t us split) fun _ => absent

theorem ite {body : Token.Body} {f : Bool → Walk α} {other : Outcome α}
    (present : ∀ t us, ts = t :: us → Traces tokens (f true) outcome ts)
    (absent : ∀ t us, ts = t :: us → Traces tokens (f false) other ts) :
    Traces tokens (Walk.isAt body >>= f)
      (if front? ts = some body then outcome else other) ts := by
  apply of_cons
  rintro t us rfl
  apply isAt
  by_cases same : t.body = body
  · simp only [same, front?_cons, decide_true, if_true]
    exact present t us rfl
  · have different : front? (t :: us) ≠ some body := by simpa using same
    rw [if_neg different]
    simp only [same, decide_false]
    exact absent t us rfl

/-! ## Single tokens -/

/-- What a token that has to mean something makes of a reading. -/
def meant (meaning : Token → Except Complaint α) (t : Token) (us : List Token) : Outcome α :=
  match meaning t with
  | .ok a => .ok (a, us)
  | .error complaint => .error ⟨complaint, t :: us⟩

theorem token {meaning : Token → Except Complaint α}
    (inner : ∀ t a, meaning t = .ok a → t.body ≠ .stop)
    (same : ∀ t us, ts = t :: us → outcome = meant meaning t us) :
    Traces tokens (token meaning) outcome ts := by
  apply of_cons
  rintro t us rfl
  rw [same t us rfl, meant]
  apply peek
  cases isMeant : meaning t with
  | error complaint => exact complain complaint
  | ok a => exact consume (inner t a isMeant) (pure a)

theorem the {body : Token.Body} (complaint : Complaint) (inner : body ≠ .stop) (ts : List Token) :
    Traces tokens (Walk.token (the body complaint))
      (Query.outcome (expect body complaint ts)) ts := by
  apply token
  · intro t a isMeant
    unfold Walk.the at isMeant
    split at isMeant
    next same => exact same ▸ inner
    next => cases isMeant
  · rintro t us rfl
    simp only [expect, meant, Walk.the]
    split <;> rfl

theorem aName (complaint : Complaint) (ts : List Token) :
    Traces tokens (Walk.token (aName complaint)) (Query.outcome (expectName complaint ts)) ts := by
  apply token
  · rintro ⟨body, lexeme, pos⟩ a isMeant rfl
    cases isMeant
  · rintro ⟨body, lexeme, pos⟩ us rfl
    cases body <;> rfl

theorem anOperand (role : Role) (ts : List Token) :
    Traces tokens (Walk.token (anOperand role)) (Query.outcome (operand role ts)) ts := by
  apply token
  · rintro ⟨body, lexeme, pos⟩ a isMeant rfl
    cases isMeant
  · rintro ⟨body, lexeme, pos⟩ us rfl
    cases body <;> rfl

theorem anOperator (ts : List Token) :
    Traces tokens (Walk.token anOperator) (operator ts) ts := by
  apply token
  · rintro ⟨body, lexeme, pos⟩ a isMeant rfl
    cases isMeant
  · rintro ⟨body, lexeme, pos⟩ us rfl
    cases body <;> rfl

theorem aCount (clause : Clause) (ts : List Token) :
    Traces tokens (Walk.token (aCount clause)) (Query.outcome (count clause ts)) ts := by
  apply token
  · rintro ⟨body, lexeme, pos⟩ a isMeant rfl
    cases isMeant
  · rintro ⟨body, lexeme, pos⟩ us rfl
    unfold count meant Walk.aCount
    cases body with
    | number n =>
      cases n with
      | int n =>
        dsimp only
        split <;> rfl
      | real x => rfl
    | _ => rfl

/-! ## Predicates -/

theorem comparison (ts : List Token) :
    Traces tokens Walk.comparison (Query.outcome (comparison ts)) ts := by
  rw [Walk.comparison, outcome_comparison]
  apply (anOperand _ ts).bind
  intro left afterLeft _
  apply (anOperator afterLeft).bind
  intro op afterOp _
  apply (anOperand _ afterOp).bind
  intro right rest _
  exact pure _

section Chain

variable {link : Token.Body} {join : Term → Term → Term} {part whole : List Token → Outcome Term}
  {more : Term → List Token → Outcome Term} {n : Nat} {partWalk : Walk Term}
  {moreWalk : Term → Walk Term}

/-- A walk along a chain traces the chain if the walks of its operands do. -/
theorem chain_more (chain : Chain link join part whole more) (inner : link ≠ .stop)
    (unfolds : ∀ left, moreWalk left = do
      if ← Walk.accept link then
        let right ← partWalk
        moreWalk (join left right)
      else
        return left)
    (shorter : ∀ ts p rest, part ts = .ok (p, rest) → rest.length < ts.length)
    (parts : ∀ ts, ts.length < n → Traces tokens partWalk (part ts) ts) (bound : ts.length ≤ n)
    (left : Term) : Traces tokens (moreWalk left) (more left ts) ts := by
  induction h : ts.length using Nat.strongRecOn generalizing ts left with
  | ind size ih =>
    rw [unfolds, chain.more_eq left]
    apply optionally inner
    · rintro t us rfl
      simp only [List.length_cons] at bound h
      apply (parts us (by omega)).bind
      intro right rest isRead
      have less := shorter us right rest isRead
      exact ih rest.length (by omega) (by omega) (join left right) rfl
    · exact pure left

end Chain

theorem disjunction {n : Nat}
    (negations : ∀ ts, ts.length < n →
      Traces tokens (Walk.negation .comparison) (Query.outcome (Query.negation ts)) ts)
    (bound : ts.length < n) :
    Traces tokens (Walk.disjunction .comparison) (Query.outcome (Query.disjunction ts)) ts := by
  have conjunctions : ∀ ts, ts.length < n →
      Traces tokens (Walk.conjunction .comparison) (Query.outcome (Query.conjunction ts)) ts := by
    intro ts bound
    rw [Walk.conjunction, conjunction_chain.start]
    apply (negations ts bound).bind
    intro left rest isRead
    have less := length_rest_lt isRead
    exact chain_more conjunction_chain (by decide) (fun _ => by rw [Walk.moreConjuncts])
      (fun _ _ _ read => length_rest_lt read) negations (by omega) left
  rw [Walk.disjunction, disjunction_chain.start]
  apply (conjunctions ts bound).bind
  intro left rest isRead
  have less := length_rest_lt isRead
  exact chain_more disjunction_chain (by decide) (fun _ => by rw [Walk.moreDisjuncts])
    (fun _ _ _ read => length_rest_lt read) conjunctions (by omega) left

theorem negation (ts : List Token) :
    Traces tokens (Walk.negation .comparison) (Query.outcome (Query.negation ts)) ts := by
  induction ts using (measure List.length).wf.induction with
  | h ts shorter =>
    rw [Walk.negation, outcome_negation]
    apply accept (by decide)
    · rintro t us rfl
      apply (shorter us (Nat.lt_succ_self us.length)).bind
      intro p rest _
      exact pure _
    intro _
    rw [if_neg (by decide), Walk.primary]
    apply accept (by decide)
    · rintro t us rfl
      apply (disjunction shorter (Nat.lt_succ_self us.length)).bind
      intro p afterTerm _
      apply (the _ (by decide) afterTerm).bind
      intro _ rest _
      exact pure _
    · intro _
      exact comparison ts

theorem predicate (ts : List Token) :
    Traces tokens (Walk.disjunction .comparison) (Query.outcome (Query.disjunction ts)) ts :=
  disjunction (fun us _ => negation us) (Nat.lt_succ_self ts.length)

/-! ## Lists and clauses -/

theorem commaList {partWalk : Walk α} {part : (ts : List Token) → Reading ts.length α}
    (parts : ∀ ts, Traces tokens partWalk (Query.outcome (part ts)) ts) (ts : List Token) :
    Traces tokens (Walk.commaList partWalk) (Query.outcome (Query.commaList part ts)) ts := by
  induction ts using (measure List.length).wf.induction with
  | h ts shorter =>
    rw [Walk.commaList, outcome_commaList]
    apply (parts ts).bind
    intro first afterFirst isRead
    have less := length_rest_lt isRead
    apply optionally (by decide)
    · rintro t us rfl
      apply (shorter us (Nat.lt_of_succ_lt less)).bind
      intro others rest _
      exact pure _
    · exact pure _

theorem selectItem (ts : List Token) :
    Traces tokens Walk.selectItem (Query.outcome (Query.selectItem ts)) ts := by
  rw [Walk.selectItem, outcome_selectItem]
  apply ite
  · rintro t us rfl
    exact complain _
  intro _ _ _
  apply (anOperand _ ts).bind
  intro a afterTerm _
  apply optionally (by decide)
  · rintro t us rfl
    apply (aName _ us).bind
    intro name rest _
    exact pure _
  · exact pure _

theorem orderKey (ts : List Token) :
    Traces tokens Walk.orderKey (Query.outcome (Query.orderKey ts)) ts := by
  rw [Walk.orderKey, outcome_orderKey]
  apply (anOperand _ ts).bind
  intro a afterTerm _
  apply accept (by decide)
  · rintro t us rfl
    exact pure _
  · intro _
    apply optionally (by decide)
    · rintro t us rfl
      exact pure _
    · exact pure _

theorem selection (ts : List Token) :
    Traces tokens Walk.selection (Query.outcome (Query.selection ts)) ts := by
  rw [Walk.selection, outcome_selection]
  apply accept (by decide)
  · rintro t us rfl
    apply ite
    · rintro t us rfl
      exact complain _
    intro _ _ _
    apply ite
    · rintro t us rfl
      exact complain _
    · intro _ _ _
      exact pure _
  · intro _
    exact commaList selectItem ts

theorem sourceClause (ts : List Token) :
    Traces tokens Walk.sourceClause (Query.outcome (Query.sourceClause ts)) ts := by
  rw [Walk.sourceClause, outcome_sourceClause]
  apply optionally (by decide)
  · rintro t us rfl
    apply (aName _ us).bind
    intro _ rest _
    exact pure _
  · exact pure _

theorem filterClause (ts : List Token) :
    Traces tokens Walk.filterClause (Query.outcome (Query.filterClause ts)) ts := by
  rw [Walk.filterClause, outcome_filterClause]
  apply optionally (by decide)
  · rintro t us rfl
    apply (predicate us).bind
    intro p rest _
    exact pure _
  · exact pure _

theorem orderClause (ts : List Token) :
    Traces tokens Walk.orderClause (Query.outcome (Query.orderClause ts)) ts := by
  rw [Walk.orderClause, outcome_orderClause]
  apply optionally (by decide)
  · rintro t us rfl
    apply (the _ (by decide) us).bind
    intro _ afterBy _
    exact commaList orderKey afterBy
  · exact pure _

theorem countClause (clause : Clause) (ts : List Token) :
    Traces tokens (Walk.countClause clause) (Query.outcome (Query.countClause clause ts)) ts := by
  rw [Walk.countClause, outcome_countClause]
  apply optionally (by simp)
  · rintro t us rfl
    apply (aCount clause us).bind
    intro n rest _
    exact pure _
  · exact pure _

end Traces

/-! ## Queries -/

def readContent (ts : List Token) : Outcome Query :=
  (outcome (expect (.keyword .select) .noSelect ts)).bind fun (_, ts) =>
  (outcome (selection ts)).bind fun (items, ts) =>
  (outcome (sourceClause ts)).bind fun (_, ts) =>
  (outcome (filterClause ts)).bind fun (p, ts) =>
  (outcome (orderClause ts)).bind fun (keys, ts) =>
  (outcome (countClause .limit ts)).bind fun (l, ts) =>
  (outcome (countClause .offset ts)).bind fun (o, ts) =>
    .ok (⟨items, p, keys, l, o⟩, optionalSemicolon ts)

theorem read_eq_content (ts : List Token) :
    read ts = (readContent ts).bind fun (q, ts) =>
      (outcome (expect .stop .notAtEnd ts)).bind fun (_, rest) => .ok (q, rest) := by
  simp only [read_eq, readContent, bind_bind]
  rfl

namespace Traces

theorem semicolon (a : α) (ts : List Token) :
    Traces tokens (do
      let _ ← Walk.accept .semicolon
      return a) (.ok (a, optionalSemicolon ts)) ts := by
  have choice : (.ok (a, optionalSemicolon ts) : Outcome α) =
      if front? ts = some .semicolon then .ok (a, ts.tail) else .ok (a, ts) := by
    rw [optionalSemicolon_eq]
    split <;> rfl
  rw [choice]
  apply accept (by decide)
  · rintro t us rfl
    exact pure _
  · intro _
    exact pure _

theorem content (ts : List Token) : Traces tokens Walk.content (readContent ts) ts := by
  apply (the _ (by decide) ts).bind
  intro _ afterSelect _
  apply (selection afterSelect).bind
  intro items afterItems _
  apply (sourceClause afterItems).bind
  intro _ afterSource _
  apply (filterClause afterSource).bind
  intro p afterFilter _
  apply (orderClause afterFilter).bind
  intro keys afterOrder _
  apply (countClause .limit afterOrder).bind
  intro l afterLimit _
  apply (countClause .offset afterLimit).bind
  intro o afterOffset _
  exact semicolon _ afterOffset

theorem notAtEnd (inner : t.body ≠ .stop) :
    Traces tokens (Walk.token (Walk.the .stop .notAtEnd))
      (.error ⟨.notAtEnd, t :: us⟩ : Outcome Unit) (t :: us) := by
  apply peek
  rw [Walk.the, if_neg inner]
  exact complain _

theorem query {failure : Failure} (refused : read ts = .error failure) :
    Traces tokens Walk.query (.error failure) ts := by
  rw [read_eq_content] at refused
  rw [← refused]
  apply (content ts).bind
  intro q rest isRead
  apply of_cons
  rintro t us rfl
  have inner : t.body ≠ .stop := by
    intro isStop
    rw [isRead] at refused
    simp [Except.bind, expect, isStop] at refused
  have fails : outcome (expect .stop .notAtEnd (t :: us)) = .error ⟨.notAtEnd, t :: us⟩ := by
    rw [expect, if_neg inner]
    rfl
  dsimp only
  rw [fails]
  exact (notAtEnd inner).bind (by rintro _ _ ⟨⟩)

end Traces

/-! ## Whole runs -/

theorem Ends.stops {start : Nat} {run : Option (Except QueryError α × Cursor)} {failure : Failure}
    (ends : Ends tokens ⟨start, []⟩ run (.error failure))
    (inside : start ≤ tokens.front.length) :
    ∃ last t, run = some (.error (.grammar failure.complaint t), last) ∧
      Orderly tokens start last ∧ tokens.all[last.index]? = some t ∧
      failure.rest = tokens.remaining last.index := by
  obtain ⟨last, isRun, proceeds, same⟩ := ends
  have orderly := proceeds.orderly (orderly_start inside)
  have bound : last.index < tokens.all.length := by
    rw [TokenList.all, List.length_append, List.length_singleton]
    exact Nat.lt_succ_of_le orderly.inside
  refine ⟨last, _, isRun, orderly, ?_, same.symm⟩
  rw [TokenList.seen, List.getElem?_eq_getElem bound]
  rfl

theorem the_stop_run {events : List Event} :
    Walk.token (Walk.the .stop .notAtEnd) tokens ⟨tokens.front.length, events⟩ =
      some (.ok (), ⟨tokens.front.length + 1, events ++ [.look tokens.front.length] ++
        [.look tokens.front.length] ++ [.take tokens.front.length]⟩) := by
  have isLast : tokens.seen tokens.front.length = tokens.last := by
    rw [TokenList.seen, TokenList.all, List.getElem?_concat_length]
    rfl
  have run : Walk.peek tokens ⟨tokens.front.length, events⟩ =
      some (.ok tokens.last, ⟨tokens.front.length, events ++ [.look tokens.front.length]⟩) := by
    rw [← isLast]
    rfl
  rw [Walk.token, Walk.bind_ok run, Walk.the, if_pos tokens.isStop]
  rfl

/-- A run that reads a query comes to the end mark and takes it last. -/
theorem query_run {start : Nat} {q : Query} {rest : List Token}
    (inside : start ≤ tokens.front.length)
    (isRead : read (tokens.remaining start) = .ok (q, rest)) :
    ∃ events, Walk.query tokens ⟨start, []⟩ =
        some (.ok q, ⟨tokens.front.length + 1, events ++ [.take tokens.front.length]⟩) ∧
      Orderly tokens start ⟨tokens.front.length, events⟩ ∧ rest = [] := by
  rw [read_eq_content] at isRead
  obtain ⟨⟨q', behind⟩, isContent, isEnd⟩ := bind_eq_ok.1 isRead
  obtain ⟨⟨_, _⟩, ended, ⟨⟩⟩ := bind_eq_ok.1 isEnd
  obtain ⟨t, rfl, isStop⟩ := outcome_expect_eq_ok.1 ended
  have ends := @Traces.content tokens (tokens.remaining start) ⟨start, []⟩ inside rfl
  rw [isContent] at ends
  obtain ⟨⟨index, events⟩, isRun, proceeds, same⟩ := ends
  have orderly := proceeds.orderly (orderly_start inside)
  obtain ⟨isSeen, isRest⟩ :=
    List.cons.inj ((TokenList.remaining_eq orderly.inside).symm.trans same)
  obtain rfl : index = tokens.front.length :=
    TokenList.eq_of_seen orderly.inside (isSeen ▸ isStop)
  refine ⟨_, ?_, SafeStep.orderly (.look orderly.inside) (SafeStep.orderly
    (.look orderly.inside) orderly), isRest.symm.trans TokenList.remaining_end⟩
  rw [Walk.query, Walk.bind_ok isRun, Walk.bind_ok the_stop_run]
  rfl

/-- A query read from an index inside a list of tokens.  The reading ends; every look at a token
lies inside the list; the tokens from the start up to the final index are taken, each once and in
order.  A query has been read up to and including the end mark, which is the last thing taken.  An
error is about the token under the cursor, which has not been taken. -/
theorem query_inside (tokens : TokenList) {start : Nat} (inside : start < tokens.all.length) :
    ∃ result last, Walk.query tokens ⟨start, []⟩ = some (result, last) ∧
      (∀ index, .look index ∈ last.events → index < tokens.all.length) ∧
      last.taken = List.range' start (last.index - start) ∧
      match result with
      | .ok q => read (tokens.remaining start) = .ok (q, []) ∧
          last.index = tokens.all.length ∧
          ∃ earlier, last.events = earlier ++ [.take tokens.front.length] ∧
            .take tokens.front.length ∉ earlier
      | .error e => ∃ complaint t,
          read (tokens.remaining start) = .error ⟨complaint, tokens.remaining last.index⟩ ∧
          tokens.all[last.index]? = some t ∧ e = .grammar complaint t ∧
          .take tokens.front.length ∉ last.events := by
  have length : tokens.all.length = tokens.front.length + 1 := by
    rw [TokenList.all, List.length_append, List.length_singleton]
  have start_le : start ≤ tokens.front.length := by omega
  cases isRead : read (tokens.remaining start) with
  | error failure =>
    obtain ⟨last, t, isRun, orderly, isThere, rest⟩ :=
      (Traces.query isRead ⟨start, []⟩ start_le rfl).stops start_le
    refine ⟨_, last, isRun, fun index member => ?_, orderly.takes, failure.complaint, t, ?_,
      isThere, rfl, orderly.not_taken⟩
    · rw [length]
      exact Nat.lt_succ_of_le (orderly.looks index member)
    · rw [← rest]
  | ok parsed =>
    obtain ⟨q, rest⟩ := parsed
    obtain ⟨events, isRun, orderly, rfl⟩ := query_run start_le isRead
    refine ⟨_, _, isRun, fun index member => ?_, orderly.takes_append, rfl, length.symm, events,
      rfl, orderly.not_taken⟩
    rw [length]
    exact Nat.lt_succ_of_le (orderly.looks_append (by rintro _ ⟨⟩) index member)

/-- A text that ends behind `FROM`: the error is about the end mark, which is seen and not taken. -/
theorem query_inside_source :
    let stop : Token := ⟨.stop, "", ⟨1, 14, 13⟩⟩
    let tokens : TokenList := ⟨[⟨.keyword .select, "SELECT", ⟨1, 1, 0⟩⟩, ⟨.star, "*", ⟨1, 8, 7⟩⟩,
      ⟨.keyword .source, "FROM", ⟨1, 10, 9⟩⟩], stop, by decide, rfl⟩
    ∃ last, Walk.query tokens ⟨0, []⟩ = some (.error (.grammar .noSourceName stop), last) ∧
      last.index = 3 ∧ last.taken = [0, 1, 2] := by
  intro stop tokens
  have isRead : read (tokens.remaining 0) = .error ⟨.noSourceName, [stop]⟩ := rfl
  obtain ⟨result, last, isRun, -, taken, ends⟩ := @query_inside tokens 0 (by decide)
  cases result with
  | ok q => cases isRead.symm.trans ends.1
  | error e =>
    obtain ⟨complaint, t, refused, isThere, rfl, -⟩ := ends
    obtain ⟨rfl, rest⟩ := Failure.mk.inj (Except.error.inj (isRead.symm.trans refused))
    have size : 1 = 4 - last.index := by
      simpa [TokenList.remaining, TokenList.all, tokens] using congrArg List.length rest
    have index : last.index = 3 := by omega
    rw [index] at isThere taken
    obtain rfl : stop = t := Option.some.inj isThere
    exact ⟨last, isRun, index, taken⟩

end LogSelect.Query

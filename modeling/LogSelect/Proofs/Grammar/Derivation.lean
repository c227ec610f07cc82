import LogSelect.Query.Grammar

/-!
The grammar of queries as rules on lists of tokens, written apart from the functions that read it.

Each relation holds of the tokens of a part of a query and of what they stand for.  The rules for
disjunctions and conjunctions take one more operand on the right, so both associate to the left;
brackets and the source name leave nothing behind.
-/

namespace LogSelect.Query

inductive IsOperandToken : Token → Term → Prop where
  | name {t name} : t.body = .name name → IsOperandToken t (.column name)
  | text {t s} : t.body = .text s → IsOperandToken t (.ofText s)
  | number {t n} : t.body = .number n → IsOperandToken t (.literal (.number n) t.lexeme)

/-- The kinds of predicates, from the loosest to the tightest. -/
inductive Rank where
  | disjunction
  | conjunction
  | negation
  | comparison
  deriving DecidableEq, Repr

/-- Tokens that form a predicate of a rank. -/
inductive Forms : Rank → List Token → Term → Prop where
  | conjunction {ts p} : Forms .conjunction ts p → Forms .disjunction ts p
  | or {ts t us p q} : Forms .disjunction ts p → t.body = .keyword .disj →
      Forms .conjunction us q → Forms .disjunction (ts ++ t :: us) (.or p q)
  | negation {ts p} : Forms .negation ts p → Forms .conjunction ts p
  | and {ts t us p q} : Forms .conjunction ts p → t.body = .keyword .conj →
      Forms .negation us q → Forms .conjunction (ts ++ t :: us) (.and p q)
  | comparison {ts p} : Forms .comparison ts p → Forms .negation ts p
  | not {t ts p} : t.body = .keyword .neg → Forms .negation ts p →
      Forms .negation (t :: ts) (.not p)
  | group {l ts r p} : l.body = .lparen → Forms .disjunction ts p → r.body = .rparen →
      Forms .comparison (l :: (ts ++ [r])) p
  | compare {l o r a op b} : IsOperandToken l a → o.body = .op op → IsOperandToken r b →
      Forms .comparison [l, o, r] (.compare a op b)

inductive FormsItem : List Token → SelectItem → Prop where
  | plain {t a} : IsOperandToken t a → FormsItem [t] ⟨a, none⟩
  | labelled {t l n a name} : IsOperandToken t a → l.body = .keyword .label →
      n.body = .name name → FormsItem [t, l, n] ⟨a, some name⟩

inductive FormsKey : List Token → OrderItem → Prop where
  | plain {t a} : IsOperandToken t a → FormsKey [t] ⟨a, .ascending⟩
  | ascending {t d a} : IsOperandToken t a → d.body = .keyword .ascending →
      FormsKey [t, d] ⟨a, .ascending⟩
  | descending {t d a} : IsOperandToken t a → d.body = .keyword .descending →
      FormsKey [t, d] ⟨a, .descending⟩

inductive FormsList {α : Type} (part : List Token → α → Prop) : List Token → List α → Prop where
  | one {ts a} : part ts a → FormsList part ts [a]
  | more {ts c us a as} : part ts a → c.body = .comma → FormsList part us as →
      FormsList part (ts ++ c :: us) (a :: as)

/-- Tokens that form a select list.  A wildcard stands alone and without a label. -/
inductive FormsSelection : List Token → List SelectItem → Prop where
  | all {t} : t.body = .star → FormsSelection [t] [⟨.wildcard, none⟩]
  | items {ts items} : FormsList FormsItem ts items → FormsSelection ts items

inductive FormsSource : List Token → Prop where
  | absent : FormsSource []
  | named {f n name} : f.body = .keyword .source → n.body = .name name → FormsSource [f, n]

inductive FormsFilter : List Token → Option Term → Prop where
  | absent : FormsFilter [] none
  | given {w ts p} : w.body = .keyword .filter → Forms .disjunction ts p →
      FormsFilter (w :: ts) (some p)

inductive FormsOrder : List Token → List OrderItem → Prop where
  | absent : FormsOrder [] []
  | given {o b ts keys} : o.body = .keyword .order → b.body = .keyword .key →
      FormsList FormsKey ts keys → FormsOrder (o :: b :: ts) keys

inductive FormsCount (clause : Clause) : List Token → Option Int → Prop where
  | absent : FormsCount clause [] none
  | given {w t n} : w.body = .keyword clause.keyword → t.body = .number (.int n) → 0 ≤ n →
      FormsCount clause [w, t] (some n)

inductive FormsEnd : List Token → Prop where
  | absent : FormsEnd []
  | semicolon {t} : t.body = .semicolon → FormsEnd [t]

/-- Tokens that form a query. -/
inductive Derives : List Token → Query → Prop where
  | intro {s select source filter order limit offset semi items p keys l o} :
      s.body = .keyword .select → FormsSelection select items → FormsSource source →
      FormsFilter filter p → FormsOrder order keys → FormsCount .limit limit l →
      FormsCount .offset offset o → FormsEnd semi →
      Derives (s :: (select ++ (source ++ (filter ++ (order ++ (limit ++ (offset ++ semi)))))))
        ⟨items, p, keys, l, o⟩

end LogSelect.Query

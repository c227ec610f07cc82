import LogSelect.Query.Render

/-!
Queries from tokens, by recursive descent.

    Query      := SELECT Selection [FROM name] [WHERE Or] [ORDER BY Key {, Key}]
                  [LIMIT count] [OFFSET count] [;]
    Selection  := '*' | Item {, Item}
    Item       := Operand [AS name]
    Or         := And {OR And}
    And        := Not {AND Not}
    Not        := NOT Not | '(' Or ')' | Operand op Operand
    Operand    := name | text | number
    Key        := Operand [ASC | DESC]

Junctions associate to the left, brackets leave no trace, and the source name is passed over.
Each function reads from the front of the remaining tokens and returns what it read with the rest,
which is shorter; a failure leaves the rest as it stands, the offending token in front.

Terms may nest to any depth, here and wherever they are evaluated or written.  An execution with a
bounded stack gives up on very deep ones instead; that limit is no part of the language.
-/

namespace LogSelect

namespace Query

/-- The place in the grammar where an operand stands. -/
inductive Role where
  | selectItem
  | comparisonOperand
  | orderKey
  deriving DecidableEq, Repr

inductive Clause where
  | limit
  | offset
  deriving DecidableEq, Repr

inductive Complaint where
  | noSelect
  | noSourceName
  | noOrderKeyword
  | notAtEnd
  | wildcardMixed
  | wildcardLabelled
  | noLabel
  | unclosedGroup
  | noOperator
  | badCount (clause : Clause)
  | wildcardOperand (role : Role)
  | noOperand (role : Role)
  deriving DecidableEq, Repr

/-- A complaint about the first of the remaining tokens. -/
structure Failure where
  complaint : Complaint
  rest : List Token

/-- What was read, with fewer than `bound` tokens remaining. -/
structure Parsed (bound : Nat) (α : Type) where
  value : α
  rest : List Token
  within : rest.length < bound

abbrev Reading (bound : Nat) (α : Type) :=
  Except Failure (Parsed bound α)

def front? (ts : List Token) : Option Token.Body :=
  ts.head?.map (·.body)

def expect (body : Token.Body) (complaint : Complaint) (ts : List Token) :
    Reading ts.length Unit :=
  match ts with
  | t :: rest =>
    if t.body = body then .ok ⟨(), rest, Nat.lt_succ_self _⟩ else .error ⟨complaint, t :: rest⟩
  | [] => .error ⟨complaint, []⟩

def expectName (complaint : Complaint) (ts : List Token) : Reading ts.length String :=
  match ts with
  | ⟨.name name, _, _⟩ :: rest => .ok ⟨name, rest, Nat.lt_succ_self _⟩
  | ts => .error ⟨complaint, ts⟩

def operand (role : Role) (ts : List Token) : Reading ts.length Term :=
  match ts with
  | ⟨.name name, _, _⟩ :: rest => .ok ⟨.column name, rest, Nat.lt_succ_self _⟩
  | ⟨.text s, _, _⟩ :: rest => .ok ⟨.ofText s, rest, Nat.lt_succ_self _⟩
  | ⟨.number n, lexeme, _⟩ :: rest =>
    .ok ⟨.literal (.number n) lexeme, rest, Nat.lt_succ_self _⟩
  | ⟨.star, lexeme, pos⟩ :: rest => .error ⟨.wildcardOperand role, ⟨.star, lexeme, pos⟩ :: rest⟩
  | ts => .error ⟨.noOperand role, ts⟩

def comparison (ts : List Token) : Reading ts.length Term :=
  match operand .comparisonOperand ts with
  | .error failure => .error failure
  | .ok ⟨left, afterLeft, h⟩ =>
    match afterLeft with
    | ⟨.op op, _, _⟩ :: afterOp =>
      match operand .comparisonOperand afterOp with
      | .error failure => .error failure
      | .ok ⟨right, rest, h'⟩ =>
        .ok ⟨.compare left op right, rest, by simp only [List.length_cons] at h; omega⟩
    | afterLeft => .error ⟨.noOperator, afterLeft⟩

mutual

def disjunction (ts : List Token) : Reading ts.length Term :=
  match conjunction ts with
  | .error failure => .error failure
  | .ok ⟨left, afterLeft, h⟩ =>
    match moreDisjuncts left afterLeft with
    | .error failure => .error failure
    | .ok ⟨term, rest, h'⟩ => .ok ⟨term, rest, by omega⟩
  termination_by 4 * ts.length + 3

def moreDisjuncts (left : Term) (ts : List Token) : Reading (ts.length + 1) Term :=
  match ts with
  | ⟨.keyword .disj, _, _⟩ :: afterOr =>
    match conjunction afterOr with
    | .error failure => .error failure
    | .ok ⟨right, afterRight, h⟩ =>
      match moreDisjuncts (.or left right) afterRight with
      | .error failure => .error failure
      | .ok ⟨term, rest, h'⟩ => .ok ⟨term, rest, by simp only [List.length_cons]; omega⟩
  | ts => .ok ⟨left, ts, Nat.lt_succ_self _⟩
  termination_by 4 * ts.length

def conjunction (ts : List Token) : Reading ts.length Term :=
  match negation ts with
  | .error failure => .error failure
  | .ok ⟨left, afterLeft, h⟩ =>
    match moreConjuncts left afterLeft with
    | .error failure => .error failure
    | .ok ⟨term, rest, h'⟩ => .ok ⟨term, rest, by omega⟩
  termination_by 4 * ts.length + 2

def moreConjuncts (left : Term) (ts : List Token) : Reading (ts.length + 1) Term :=
  match ts with
  | ⟨.keyword .conj, _, _⟩ :: afterAnd =>
    match negation afterAnd with
    | .error failure => .error failure
    | .ok ⟨right, afterRight, h⟩ =>
      match moreConjuncts (.and left right) afterRight with
      | .error failure => .error failure
      | .ok ⟨term, rest, h'⟩ => .ok ⟨term, rest, by simp only [List.length_cons]; omega⟩
  | ts => .ok ⟨left, ts, Nat.lt_succ_self _⟩
  termination_by 4 * ts.length

def negation (ts : List Token) : Reading ts.length Term :=
  match ts with
  | ⟨.keyword .neg, _, _⟩ :: afterNot =>
    match negation afterNot with
    | .error failure => .error failure
    | .ok ⟨term, rest, h⟩ => .ok ⟨.not term, rest, by simp only [List.length_cons]; omega⟩
  | ⟨.lparen, _, _⟩ :: afterOpen =>
    match disjunction afterOpen with
    | .error failure => .error failure
    | .ok ⟨term, afterTerm, h⟩ =>
      match expect .rparen .unclosedGroup afterTerm with
      | .error failure => .error failure
      | .ok ⟨_, rest, h'⟩ => .ok ⟨term, rest, by simp only [List.length_cons]; omega⟩
  | ts => comparison ts
  termination_by 4 * ts.length + 1

end

def selectItem (ts : List Token) : Reading ts.length SelectItem :=
  if front? ts = some .star then
    .error ⟨.wildcardMixed, ts⟩
  else
    match operand .selectItem ts with
    | .error failure => .error failure
    | .ok ⟨term, afterTerm, h⟩ =>
      match afterTerm with
      | ⟨.keyword .label, _, _⟩ :: afterAs =>
        match expectName .noLabel afterAs with
        | .error failure => .error failure
        | .ok ⟨name, rest, h'⟩ =>
          .ok ⟨⟨term, some name⟩, rest, by simp only [List.length_cons] at h; omega⟩
      | rest => .ok ⟨⟨term, none⟩, rest, h⟩

def orderKey (ts : List Token) : Reading ts.length OrderItem :=
  match operand .orderKey ts with
  | .error failure => .error failure
  | .ok ⟨term, afterTerm, h⟩ =>
    match afterTerm with
    | ⟨.keyword .descending, _, _⟩ :: rest =>
      .ok ⟨⟨term, .descending⟩, rest, by simp only [List.length_cons] at h; omega⟩
    | ⟨.keyword .ascending, _, _⟩ :: rest =>
      .ok ⟨⟨term, .ascending⟩, rest, by simp only [List.length_cons] at h; omega⟩
    | rest => .ok ⟨⟨term, .ascending⟩, rest, h⟩

def commaList {α : Type} (part : (ts : List Token) → Reading ts.length α) (ts : List Token) :
    Reading ts.length (List α) :=
  match part ts with
  | .error failure => .error failure
  | .ok ⟨first, afterFirst, h⟩ =>
    match afterFirst with
    | ⟨.comma, _, _⟩ :: afterComma =>
      match commaList part afterComma with
      | .error failure => .error failure
      | .ok ⟨others, rest, h'⟩ =>
        .ok ⟨first :: others, rest, by simp only [List.length_cons] at h; omega⟩
    | rest => .ok ⟨[first], rest, h⟩
  termination_by ts.length
  decreasing_by simp only [List.length_cons] at h; omega

def selection (ts : List Token) : Reading ts.length (List SelectItem) :=
  match ts with
  | ⟨.star, _, _⟩ :: rest =>
    if front? rest = some .comma then .error ⟨.wildcardMixed, rest⟩
    else if front? rest = some (.keyword .label) then .error ⟨.wildcardLabelled, rest⟩
    else .ok ⟨[⟨.wildcard, none⟩], rest, Nat.lt_succ_self _⟩
  | ts => commaList selectItem ts

/-- Read the name behind `FROM`, if there is one, and forget it. -/
def sourceClause (ts : List Token) : Reading (ts.length + 1) Unit :=
  match ts with
  | ⟨.keyword .source, _, _⟩ :: afterFrom =>
    match expectName .noSourceName afterFrom with
    | .error failure => .error failure
    | .ok ⟨_, rest, h⟩ => .ok ⟨(), rest, by simp only [List.length_cons]; omega⟩
  | ts => .ok ⟨(), ts, Nat.lt_succ_self _⟩

def filterClause (ts : List Token) : Reading (ts.length + 1) (Option Term) :=
  match ts with
  | ⟨.keyword .filter, _, _⟩ :: afterWhere =>
    match disjunction afterWhere with
    | .error failure => .error failure
    | .ok ⟨term, rest, h⟩ => .ok ⟨some term, rest, by simp only [List.length_cons]; omega⟩
  | ts => .ok ⟨none, ts, Nat.lt_succ_self _⟩

def orderClause (ts : List Token) : Reading (ts.length + 1) (List OrderItem) :=
  match ts with
  | ⟨.keyword .order, _, _⟩ :: afterOrder =>
    match expect (.keyword .key) .noOrderKeyword afterOrder with
    | .error failure => .error failure
    | .ok ⟨_, afterBy, h⟩ =>
      match commaList orderKey afterBy with
      | .error failure => .error failure
      | .ok ⟨keys, rest, h'⟩ => .ok ⟨keys, rest, by simp only [List.length_cons]; omega⟩
  | ts => .ok ⟨[], ts, Nat.lt_succ_self _⟩

def Clause.keyword : Clause → Keyword
  | .limit => .limit
  | .offset => .offset

/-- Read a count: a whole number that is not negative. -/
def count (clause : Clause) (ts : List Token) : Reading ts.length Int :=
  match ts with
  | ⟨.number (.int n), lexeme, pos⟩ :: rest =>
    if n < 0 then .error ⟨.badCount clause, ⟨.number (.int n), lexeme, pos⟩ :: rest⟩
    else .ok ⟨n, rest, Nat.lt_succ_self _⟩
  | ts => .error ⟨.badCount clause, ts⟩

def countClause (clause : Clause) (ts : List Token) : Reading (ts.length + 1) (Option Int) :=
  match ts with
  | t :: afterWord =>
    if t.body = .keyword clause.keyword then
      match count clause afterWord with
      | .error failure => .error failure
      | .ok ⟨n, rest, h⟩ => .ok ⟨some n, rest, by simp only [List.length_cons]; omega⟩
    else
      .ok ⟨none, t :: afterWord, Nat.lt_succ_self _⟩
  | [] => .ok ⟨none, [], Nat.lt_succ_self _⟩

def optionalSemicolon : List Token → List Token
  | ⟨.semicolon, _, _⟩ :: rest => rest
  | ts => ts

def read (ts : List Token) : Except Failure (Query × List Token) := do
  let start ← expect (.keyword .select) .noSelect ts
  let select ← selection start.rest
  let source ← sourceClause select.rest
  let filter ← filterClause source.rest
  let order ← orderClause filter.rest
  let limit ← countClause .limit order.rest
  let offset ← countClause .offset limit.rest
  let stop ← expect .stop .notAtEnd (optionalSemicolon offset.rest)
  return ({
    select := select.value
    filter := filter.value
    order := order.value
    limit := limit.value
    offset := offset.value }, stop.rest)

def ofTokens (ts : List Token) : Except Failure Query :=
  (read ts).map Prod.fst

end Query

end LogSelect

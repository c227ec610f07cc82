import LogSelect.Query.Error

/-!
The grammar with a cursor.

A walk reads a query from a fixed list of tokens through an index into it.  It looks at the token
under the index, or at the last one if the index is outside, and takes a token by moving the index
on.  Looks and takes are recorded in the order in which they happen, so it can be said of a walk
where it has looked and what it has taken, not only what it has read.  To test a token is a look,
to take it is another, and an error looks at the token it is about.

A walk need not end by its definition: a look is not bound to see any progress.
-/

namespace LogSelect.Query

/-- A list of tokens that ends in its only end mark. -/
structure TokenList where
  front : List Token
  last : Token
  inner : ∀ t ∈ front, t.body ≠ .stop
  isStop : last.body = .stop

namespace TokenList

def all (tokens : TokenList) : List Token :=
  tokens.front ++ [tokens.last]

/-- The token that a look at an index sees: no look fails. -/
def seen (tokens : TokenList) (index : Nat) : Token :=
  tokens.all[index]?.getD tokens.last

end TokenList

inductive Event where
  | look (index : Nat)
  | take (index : Nat)
  deriving DecidableEq

structure Cursor where
  index : Nat
  events : List Event
  deriving DecidableEq

/-- A part of a query, read by moving a cursor, or an error; there is no result if the walk does
not end.  The cursor stays where the error was found. -/
abbrev Walk :=
  ReaderT TokenList (ExceptT QueryError (StateT Cursor Option))

namespace Walk

variable {α β : Type} {tokens : TokenList} {cursor cursor' : Cursor}

theorem bind_ok {walk : Walk α} {f : α → Walk β} {a : α}
    (first : walk tokens cursor = some (.ok a, cursor')) :
    (walk >>= f) tokens cursor = f a tokens cursor' := by
  simp [bind, ReaderT.bind, ExceptT.bind, ExceptT.mk, StateT.bind, ExceptT.bindCont, first]

theorem bind_error {walk : Walk α} {f : α → Walk β} {e : QueryError}
    (first : walk tokens cursor = some (.error e, cursor')) :
    (walk >>= f) tokens cursor = some (.error e, cursor') := by
  simp only [bind, ReaderT.bind, ExceptT.bind, ExceptT.mk, StateT.bind, first,
    Option.bind_some]
  rfl

def peek : Walk Token := fun tokens cursor =>
  some (.ok (tokens.seen cursor.index),
    { cursor with events := cursor.events ++ [.look cursor.index] })

def advance : Walk Unit := fun _ cursor =>
  some (.ok (), ⟨cursor.index + 1, cursor.events ++ [.take cursor.index]⟩)

def consume : Walk Token := do
  let t ← peek
  advance
  return t

def complain {α : Type} (complaint : Complaint) : Walk α := do
  let t ← peek
  throw (.grammar complaint t)

def isAt (body : Token.Body) : Walk Bool := do
  let t ← peek
  return t.body = body

def accept (body : Token.Body) : Walk Bool := do
  if ← isAt body then
    let _ ← consume
    return true
  else
    return false

def token {α : Type} (meaning : Token → Except Complaint α) : Walk α := do
  let t ← peek
  match meaning t with
  | .ok a =>
    let _ ← consume
    return a
  | .error complaint => complain complaint

/-! ## Single tokens -/

/-- A token of the body. -/
def the (body : Token.Body) (complaint : Complaint) (t : Token) : Except Complaint Unit :=
  if t.body = body then .ok () else .error complaint

def aName (complaint : Complaint) (t : Token) : Except Complaint String :=
  match t.body with
  | .name name => .ok name
  | _ => .error complaint

def anOperand (role : Role) (t : Token) : Except Complaint Term :=
  match t.body with
  | .name name => .ok (.column name)
  | .text s => .ok (.ofText s)
  | .number n => .ok (.literal (.number n) t.lexeme)
  | .star => .error (.wildcardOperand role)
  | _ => .error (.noOperand role)

def anOperator (t : Token) : Except Complaint CompareOp :=
  match t.body with
  | .op op => .ok op
  | _ => .error .noOperator

def aCount (clause : Clause) (t : Token) : Except Complaint Int :=
  match t.body with
  | .number (.int n) => if n < 0 then .error (.badCount clause) else .ok n
  | _ => .error (.badCount clause)

/-! ## Predicates -/

def comparison : Walk Term := do
  let left ← token (anOperand .comparisonOperand)
  let op ← token anOperator
  let right ← token (anOperand .comparisonOperand)
  return .compare left op right

mutual

/-- A disjunction, given how to walk through what is neither joined, negated nor in brackets. -/
def disjunction (atom : Walk Term) : Walk Term := do
  let left ← atom |>.conjunction
  atom |>.moreDisjuncts left
partial_fixpoint

def moreDisjuncts (atom : Walk Term) (left : Term) : Walk Term := do
  if ← accept (.keyword .disj) then
    let right ← atom |>.conjunction
    atom |>.moreDisjuncts (.or left right)
  else
    return left
partial_fixpoint

def conjunction (atom : Walk Term) : Walk Term := do
  let left ← atom |>.negation
  atom |>.moreConjuncts left
partial_fixpoint

def moreConjuncts (atom : Walk Term) (left : Term) : Walk Term := do
  if ← accept (.keyword .conj) then
    let right ← atom |>.negation
    atom |>.moreConjuncts (.and left right)
  else
    return left
partial_fixpoint

def negation (atom : Walk Term) : Walk Term := do
  if ← accept (.keyword .neg) then
    let inner ← atom |>.negation
    return .not inner
  else
    atom |>.primary
partial_fixpoint

def primary (atom : Walk Term) : Walk Term := do
  if ← accept .lparen then
    let inner ← atom |>.disjunction
    token (the .rparen .unclosedGroup)
    return inner
  else
    atom
partial_fixpoint

end

/-! ## Lists and clauses -/

def commaList {α : Type} (part : Walk α) : Walk (List α) := do
  let first ← part
  if ← accept .comma then
    let others ← part |>.commaList
    return first :: others
  else
    return [first]
partial_fixpoint

def selectItem : Walk SelectItem := do
  if ← isAt .star then
    complain .wildcardMixed
  else
    let term ← token (anOperand .selectItem)
    if ← accept (.keyword .label) then
      let name ← token (aName .noLabel)
      return ⟨term, some name⟩
    else
      return ⟨term, none⟩

def selection : Walk (List SelectItem) := do
  if ← accept .star then
    if ← isAt .comma then
      complain .wildcardMixed
    else if ← isAt (.keyword .label) then
      complain .wildcardLabelled
    else
      return [⟨.wildcard, none⟩]
  else
    commaList selectItem

def orderKey : Walk OrderItem := do
  let term ← token (anOperand .orderKey)
  if ← accept (.keyword .descending) then
    return ⟨term, .descending⟩
  else
    let _ ← accept (.keyword .ascending)
    return ⟨term, .ascending⟩

def sourceClause : Walk Unit := do
  if ← accept (.keyword .source) then
    let _ ← token (aName .noSourceName)
    return ()
  else
    return ()

def filterClause : Walk (Option Term) := do
  if ← accept (.keyword .filter) then
    let term ← disjunction comparison
    return some term
  else
    return none

def orderClause : Walk (List OrderItem) := do
  if ← accept (.keyword .order) then
    token (the (.keyword .key) .noOrderKeyword)
    commaList orderKey
  else
    return []

def countClause (clause : Clause) : Walk (Option Int) := do
  if ← accept (.keyword clause.keyword) then
    let n ← token (aCount clause)
    return some n
  else
    return none

def content : Walk Query := do
  token (the (.keyword .select) .noSelect)
  let select ← selection
  sourceClause
  let filter ← filterClause
  let order ← orderClause
  let limit ← countClause .limit
  let offset ← countClause .offset
  let _ ← accept .semicolon
  return { select, filter, order, limit, offset }

def query : Walk Query := do
  let q ← content
  token (the .stop .notAtEnd)
  return q

end Walk

end LogSelect.Query

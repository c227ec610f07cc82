import LogSelect.Collation

/-!
Queries.

Operands and predicates are terms of one type.  The grammar puts operands and predicates in their
proper places; a term built by hand may mix them, which shows when it is evaluated.
-/

namespace LogSelect

inductive Term where
  | column (name : String)
  /-- A constant with the text that spells it. -/
  | literal (value : Value) (spelling : String)
  /-- All columns. -/
  | wildcard
  | compare (left : Term) (op : CompareOp) (right : Term)
  | and (left right : Term)
  | or (left right : Term)
  | not (operand : Term)
  deriving DecidableEq

namespace Term

/-- A column or a constant. -/
def IsOperand : Term → Prop
  | .column _ | .literal _ _ => True
  | _ => False

/-- A combination of comparisons of operands. -/
def IsPredicate : Term → Prop
  | .compare left _ right => left.IsOperand ∧ right.IsOperand
  | .and left right | .or left right => left.IsPredicate ∧ right.IsPredicate
  | .not operand => operand.IsPredicate
  | _ => False

def same : Term → Term → Bool
  | .column a, .column b => a == b
  | .literal v s, .literal w t => v.same w && s == t
  | .wildcard, .wildcard => true
  | .compare l op r, .compare l' op' r' => l.same l' && op == op' && r.same r'
  | .and l r, .and l' r' | .or l r, .or l' r' => l.same l' && r.same r'
  | .not p, .not q => p.same q
  | _, _ => false

end Term

inductive Direction where
  | ascending
  | descending
  deriving DecidableEq, Repr

structure SelectItem where
  term : Term
  /-- The name given to the output column. -/
  label : Option String
  deriving DecidableEq

structure OrderItem where
  term : Term
  direction : Direction
  deriving DecidableEq

/-- A query: what to show, of which rows, in which order, and which part of them. -/
structure Query where
  select : List SelectItem
  filter : Option Term
  order : List OrderItem
  limit : Option Int
  offset : Option Int
  deriving DecidableEq

namespace Query

def isWildcard (query : Query) : Bool :=
  match query.select with
  | [item] => item.term == .wildcard
  | _ => false

def sameList {α : Type} (same : α → α → Bool) : List α → List α → Bool
  | [], [] => true
  | a :: as, b :: bs => same a b && sameList same as bs
  | _, _ => false

def same (q r : Query) : Bool :=
  sameList (fun a b => a.term.same b.term && a.label == b.label) q.select r.select &&
    (match q.filter, r.filter with
      | none, none => true
      | some p, some p' => p.same p'
      | _, _ => false) &&
    sameList (fun a b => a.term.same b.term && a.direction == b.direction) q.order r.order &&
    q.limit == r.limit && q.offset == r.offset

end Query

end LogSelect

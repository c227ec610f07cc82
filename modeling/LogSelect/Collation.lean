import LogSelect.Text.Case
import LogSelect.Value

/-!
Comparison of values.

Two values that both read as numbers are compared as numbers; otherwise their texts are compared
by code points, after case folding where case is ignored.  The comparison operators treat a
missing value as different from everything, itself included.  The order for sorting is a different
relation: missing values come first, then all numbers, then all other texts.
-/

namespace LogSelect

inductive CompareOp where
  | eq | ne | lt | gt | le | ge
  deriving DecidableEq, Repr

namespace CompareOp

def flip : CompareOp → CompareOp
  | .eq => .eq
  | .ne => .ne
  | .lt => .gt
  | .gt => .lt
  | .le => .ge
  | .ge => .le

def holds : CompareOp → Ordering → Bool
  | .eq, order => order == .eq
  | .ne, order => order != .eq
  | .lt, order => order == .lt
  | .gt, order => order == .gt
  | .le, order => order != .gt
  | .ge, order => order != .lt

def symbol : CompareOp → String
  | .eq => "="
  | .ne => "!="
  | .lt => "<"
  | .gt => ">"
  | .le => "<="
  | .ge => ">="

end CompareOp

/-- Order of texts by code points, a beginning of a text before the text. -/
def compareCodes : List Char → List Char → Ordering
  | [], [] => .eq
  | [], _ :: _ => .lt
  | _ :: _, [] => .gt
  | c :: s, d :: t =>
    if c.toNat < d.toNat then .lt
    else if d.toNat < c.toNat then .gt
    else compareCodes s t

/-- Whether texts that differ in case only are told apart. -/
inductive Collation where
  | exact
  | ignoringCase
  deriving DecidableEq, Repr

namespace Collation

def key : Collation → String → String
  | .exact, s => s
  | .ignoringCase, s => foldText s

/-- Order of two present values: as numbers if both read as numbers, else as texts. -/
def comparePresent (collation : Collation) (left right : Value) : Ordering :=
  match left.number?, right.number? with
  | some a, some b => a.compare b
  | _, _ => compareCodes (collation.key left.render).toList (collation.key right.render).toList

/-- Whether the operator holds between two values.  With a missing operand only `!=` does. -/
def compare (collation : Collation) (left : Value) (op : CompareOp) (right : Value) : Bool :=
  match left, right with
  | .missing, _ | _, .missing => op == .ne
  | left, right => op.holds (collation.comparePresent left right)

/-- The order of sorting: missing values, numbers, other texts. -/
def order (collation : Collation) (left right : Value) : Ordering :=
  match left, right with
  | .missing, .missing => .eq
  | .missing, _ => .lt
  | _, .missing => .gt
  | left, right =>
    match left.number?.isSome, right.number?.isSome with
    | true, false => .lt
    | false, true => .gt
    | _, _ => collation.comparePresent left right

end Collation

end LogSelect

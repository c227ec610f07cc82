import LogSelect.Query.Basic
import LogSelect.Row

/-!
Evaluation of terms in a row.

An operand has a value, a predicate is true or false.  Junctions are evaluated from left to right
and only as far as needed, so a fault in a part that is not needed stays unnoticed.
-/

namespace LogSelect

/-- Why a term or a query cannot be evaluated. -/
inductive EvalError where
  | wildcardValue
  | wildcardInPredicate
  | notAnOperand (term : Term)
  | notAPredicate (term : Term)
  | wildcardMixed
  | wildcardKey
  deriving DecidableEq

namespace EvalError

def kind : Term → String
  | .column _ => "ColumnRef"
  | .literal _ _ => "Literal"
  | .wildcard => "Wildcard"
  | .compare _ _ _ => "Comparison"
  | .and _ _ => "And"
  | .or _ _ => "Or"
  | .not _ => "Not"

def reason : EvalError → String
  | .wildcardValue => "Wildcard '*' cannot be evaluated as a value"
  | .wildcardInPredicate => "Wildcard '*' is not allowed in a predicate"
  | .notAnOperand term => "Unsupported expression: " ++ kind term
  | .notAPredicate term => "Unsupported predicate: " ++ kind term
  | .wildcardMixed => "Wildcard '*' cannot be combined with other select items"
  | .wildcardKey => "Wildcard '*' cannot be used as an ORDER BY key"

def message (error : EvalError) : String :=
  "EvalError: " ++ error.reason

end EvalError

namespace Term

def evaluate (row : Row) : Term → Except EvalError Value
  | .column name => .ok (row.get name)
  | .literal value _ => .ok value
  | .wildcard => .error .wildcardValue
  | term => .error (.notAnOperand term)

def testCompare (collation : Collation) (row : Row) (left : Term) (op : CompareOp)
    (right : Term) : Except EvalError Bool :=
  if left = .wildcard ∨ right = .wildcard then
    .error .wildcardInPredicate
  else do
    let a ← left.evaluate row
    let b ← right.evaluate row
    return collation.compare a op b

def test (collation : Collation) (row : Row) : Term → Except EvalError Bool
  | .compare left op right => testCompare collation row left op right
  | .and left right => do
    if ← left.test collation row then right.test collation row else return false
  | .or left right => do
    if ← left.test collation row then return true else right.test collation row
  | .not operand => do return !(← operand.test collation row)
  | term => .error (.notAPredicate term)

end Term

end LogSelect

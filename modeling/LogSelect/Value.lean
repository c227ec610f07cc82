import LogSelect.Number.Numeral

/-!
Values that queries compute with: texts, numbers, and the absence of a column.

A text that is a numeral reads as a number where values are compared, and stays a text where it is
shown.
-/

namespace LogSelect

inductive Value where
  | text (s : String)
  | number (n : Number)
  /-- The value of a column that a row does not have. -/
  | missing
  deriving DecidableEq

namespace Value

def number? : Value → Option Number
  | .text s => Number.ofText? s
  | .number n => some n
  | .missing => none

/-- The text that shows a value; a missing value shows as nothing. -/
def render : Value → String
  | .text s => s
  | .number n => n.text
  | .missing => ""

def same : Value → Value → Bool
  | .text s, .text t => s == t
  | .number a, .number b => a.sameValue b
  | .missing, .missing => true
  | _, _ => false

end Value

end LogSelect

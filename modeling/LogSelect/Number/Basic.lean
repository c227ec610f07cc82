import LogSelect.Number.Shortest

/-!
Numbers: whole numbers of any size and floating-point numbers.  They are compared by their exact
values, so no whole number is rounded for the comparison.
-/

namespace LogSelect

inductive Number where
  | int (n : Int)
  | real (x : Binary64)
  deriving DecidableEq

/-- The place of a number on the extended line: a fraction with positive denominator, or beyond
all fractions. -/
inductive Magnitude where
  | below
  | at (num : Int) (den : Nat)
  | above

def Magnitude.compare : Magnitude → Magnitude → Ordering
  | .below, .below | .above, .above => .eq
  | .below, _ | _, .above => .lt
  | .above, _ | _, .below => .gt
  | .at num den, .at num' den' =>
    if num * den' < num' * den then .lt else if num * den' = num' * den then .eq else .gt

namespace Number

/-- The exact value; what is not a number has none. -/
def magnitude? : Number → Option Magnitude
  | .int n => some (.at n 1)
  | .real .nan => none
  | .real (.infinite negative) => some (if negative then .below else .above)
  | .real (.finite negative significand exponent _) =>
    let (num, den) := Binary64.fraction negative significand exponent
    some (.at num den)

/-- Comparison by exact value.  What is not a number ties with every number, being neither less
nor greater. -/
def compare (a b : Number) : Ordering :=
  match a.magnitude?, b.magnitude? with
  | some x, some y => x.compare y
  | _, _ => .eq

def sameValue (a b : Number) : Bool :=
  match a.magnitude?, b.magnitude? with
  | some x, some y => x.compare y == .eq
  | _, _ => false

def text : Number → String
  | .int n => toString n
  | .real x => x.text

end Number

end LogSelect

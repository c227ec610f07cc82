import LogSelect.Number.Binary64

/-!
Sums and products of floating-point numbers, rounded from their exact values.
-/

namespace LogSelect.Binary64

def negate : Binary64 → Binary64
  | .nan => .nan
  | .infinite negative => .infinite (!negative)
  | .finite negative significand exponent canonical =>
    .finite (!negative) significand exponent canonical

/-- The number nearest to a fraction with a sign.  Zero is positive. -/
def ofFraction (num : Int) (den : Nat) : Binary64 :=
  ofRatio (num < 0) num.natAbs den

def add : Binary64 → Binary64 → Binary64
  | .nan, _ | _, .nan => .nan
  | .infinite a, .infinite b => if a = b then .infinite a else .nan
  | .infinite a, .finite .. | .finite .., .infinite a => .infinite a
  | .finite s m q _, .finite s' m' q' _ =>
    let (num, den) := fraction s m q
    let (num', den') := fraction s' m' q'
    ofFraction (num * den' + num' * den) (den * den')

def mul : Binary64 → Binary64 → Binary64
  | .nan, _ | _, .nan => .nan
  | .infinite a, .infinite b => .infinite (a != b)
  | .infinite a, .finite b m _ _ | .finite b m _ _, .infinite a =>
    if m = 0 then .nan else .infinite (a != b)
  | .finite s m q _, .finite s' m' q' _ =>
    let (num, den) := fraction s m q
    let (num', den') := fraction s' m' q'
    ofRatio (s != s') (num * num').natAbs (den * den')

def ofNat (n : Nat) : Binary64 :=
  ofRatio false n 1

end LogSelect.Binary64

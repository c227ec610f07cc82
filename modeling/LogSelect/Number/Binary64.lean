/-!
Binary floating-point numbers of 53 significant bits, with their exact values.

A finite number is a sign and a pair `(m, q)` that stands for `m * 2 ^ q`.  Every value has one
such pair: either `m` has all 53 bits, or `q` is the least exponent.  A fraction is rounded to the
nearest number, a tie going to the even significand; what lies past the greatest number becomes
infinite.
-/

namespace LogSelect

def leadingBit : Nat := Nat.pow 2 52

/-- The pairs that stand for finite numbers, one for each value. -/
def IsCanonical (significand : Nat) (exponent : Int) : Prop :=
  significand < 2 * leadingBit ∧ -1074 ≤ exponent ∧ exponent ≤ 971 ∧
    (leadingBit ≤ significand ∨ exponent = -1074)

instance (significand : Nat) (exponent : Int) : Decidable (IsCanonical significand exponent) :=
  inferInstanceAs (Decidable (_ ∧ _))

inductive Binary64 where
  | nan
  | infinite (negative : Bool)
  | finite (negative : Bool) (significand : Nat) (exponent : Int)
      (canonical : IsCanonical significand exponent)
  deriving DecidableEq

namespace Binary64

/-- `num / den` as a whole number, a half going to the even neighbour. -/
def roundHalfEven (num den : Nat) : Nat :=
  let low := num / den
  let twice := 2 * (num % den)
  if twice < den ∨ (twice = den ∧ low % 2 = 0) then low else low + 1

def rescale (base num den : Nat) (exponent : Int) : Nat × Nat :=
  if 0 ≤ exponent then (num, den * Nat.pow base exponent.toNat)
  else (num * Nat.pow base (-exponent).toNat, den)

/-- The number `m * 2 ^ q`, infinite if that is no finite number. -/
def pack (negative : Bool) (significand : Nat) (exponent : Int) : Binary64 :=
  if canonical : IsCanonical significand exponent then
    .finite negative significand exponent canonical
  else
    .infinite negative

def signedZero (negative : Bool) : Binary64 :=
  .finite negative 0 (-1074) (by decide)

/-- The exponent at which `num / den` has 53 bits before the point, or the least one. -/
def exponentFor (num den : Nat) : Int :=
  let guess : Int := (Nat.log2 num : Int) - Nat.log2 den - 52
  let (num', den') := rescale 2 num den guess
  let exponent := if num' / den' < leadingBit then guess - 1 else guess
  if exponent < -1074 then -1074 else exponent

def ofRatio (negative : Bool) (num den : Nat) : Binary64 :=
  if num = 0 then
    signedZero negative
  else
    let exponent := exponentFor num den
    let (num', den') := rescale 2 num den exponent
    let significand := roundHalfEven num' den'
    if significand = 2 * leadingBit then pack negative leadingBit (exponent + 1)
    else pack negative significand exponent

def decimalDigits (n : Nat) : List Char :=
  Nat.toDigits 10 n

/-- The number nearest to `coefficient * 10 ^ exponent`.  Values past `10 ^ 310` or below
`10 ^ -330` are decided without computing the power. -/
def ofDecimal (negative : Bool) (coefficient : Nat) (exponent : Int) : Binary64 :=
  if coefficient = 0 then
    signedZero negative
  else
    let magnitude := (decimalDigits coefficient).length + exponent
    if 310 < magnitude then .infinite negative
    else if magnitude < -330 then signedZero negative
    else
      let (num, den) := rescale 10 coefficient 1 (-exponent)
      ofRatio negative num den

def fraction (negative : Bool) (significand : Nat) (exponent : Int) : Int × Nat :=
  let (num, den) := rescale 2 significand 1 (-exponent)
  (if negative then -(num : Int) else num, den)

end Binary64

end LogSelect

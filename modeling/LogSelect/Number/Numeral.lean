import LogSelect.Number.Basic
import LogSelect.Text.Digits

/-!
Numerals: the texts that read as numbers.

A numeral is a sign, digits with an optional point and fraction, and an optional exponent, in the
digits of any script.  Without point and exponent it denotes a whole number, else a floating-point
number.  Texts of more than 4300 digits are not read as whole numbers; where a field holds one, it
is read as a floating-point number.
-/

namespace LogSelect

def maxWholeDigits : Nat := 4300

def ofDigits (digits : List Nat) : Nat :=
  digits.foldl (fun value d => value * 10 + d) 0

structure Numeral where
  negative : Bool
  whole : List Nat
  /-- The digits after the point, if there is a point. -/
  fraction : Option (List Nat)
  /-- Sign and digits of the exponent, if there is one. -/
  exponent : Option (Bool × List Nat)

namespace Numeral

def takeDigits : List Char → List Nat × List Char
  | [] => ([], [])
  | c :: rest =>
    match digitValue? c with
    | none => ([], c :: rest)
    | some d => (d :: (takeDigits rest).1, (takeDigits rest).2)

def takeSign : List Char → Bool × List Char
  | '+' :: rest => (false, rest)
  | '-' :: rest => (true, rest)
  | cs => (false, cs)

def takeFraction : List Char → Option (List Nat) × List Char
  | '.' :: rest => (some (takeDigits rest).1, (takeDigits rest).2)
  | cs => (none, cs)

/-- The exponent that is all of a text, or nothing for the empty text. -/
def readExponent? : List Char → Option (Option (Bool × List Nat))
  | [] => some none
  | e :: rest =>
    if e = 'e' ∨ e = 'E' then
      let (negative, afterSign) := takeSign rest
      match takeDigits afterSign with
      | (d :: digits, []) => some (some (negative, d :: digits))
      | _ => none
    else
      none

/-- The numeral spelled by a text.  A digit must stand before or after the point. -/
def read? (cs : List Char) : Option Numeral :=
  let (negative, afterSign) := takeSign cs
  let (whole, afterWhole) := takeDigits afterSign
  let (fraction, afterFraction) := takeFraction afterWhole
  if whole.isEmpty && (fraction.getD []).isEmpty then none
  else (readExponent? afterFraction).map fun exponent => { negative, whole, fraction, exponent }

def wholeValue (numeral : Numeral) : Int :=
  if numeral.negative then -(ofDigits numeral.whole : Int) else ofDigits numeral.whole

def realValue (numeral : Numeral) : Binary64 :=
  let fraction := numeral.fraction.getD []
  let power : Int :=
    match numeral.exponent with
    | none => 0
    | some (true, digits) => -(ofDigits digits : Int)
    | some (false, digits) => ofDigits digits
  Binary64.ofDecimal numeral.negative (ofDigits (numeral.whole ++ fraction))
    (power - fraction.length)

/-- A numeral that is only sign and digits, and few enough of them. -/
def isWhole (numeral : Numeral) : Bool :=
  numeral.fraction.isNone && numeral.exponent.isNone && numeral.whole.length ≤ maxWholeDigits

def value (numeral : Numeral) : Number :=
  if numeral.isWhole then .int numeral.wholeValue else .real numeral.realValue

end Numeral

def Number.ofText? (s : String) : Option Number :=
  (Numeral.read? s.toList).map (·.value)

end LogSelect

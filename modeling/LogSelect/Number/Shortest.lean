import LogSelect.Number.Binary64

/-!
The text of a floating-point number: the fewest digits that read back as the same number, and of
those the nearest, an even last digit deciding a tie.

The digits of a positive number are searched on the decimal grids of 1, 2, … 17 significant
places.  On each grid only the two neighbours of the number come into question.  The layout is
positional for decimal exponents from -4 to 15, where a whole number keeps `.0`, and scientific
outside, with a sign and at least two digits in the exponent.
-/

namespace LogSelect.Binary64

def leadingZeros (num den : Nat) : (limit : Nat) → Nat
  | 0 => 0
  | limit + 1 => if den ≤ num then 0 else leadingZeros (num * 10) den limit + 1

/-- The exponent `e` for which `num / den` lies between `10 ^ e` and `10 ^ (e + 1)`. -/
def decimalExponent (num den : Nat) : Int :=
  if den ≤ num then (decimalDigits (num / den)).length - 1
  else -(leadingZeros num den 400 : Int)

structure Decimal where
  coefficient : Nat
  exponent : Int
  deriving DecidableEq

def Decimal.readsBack (x : Binary64) (d : Decimal) : Bool :=
  ofDecimal false d.coefficient d.exponent == x

/-- The neighbours of `num / den` on the grid of multiples of `10 ^ exponent`, nearer first, and
the even one first in a tie. -/
def neighbours (num den : Nat) (exponent : Int) : List Decimal :=
  let (num', den') := rescale 10 num den exponent
  let low := num' / den'
  let nearest := roundHalfEven num' den'
  [⟨nearest, exponent⟩, ⟨if nearest = low then low + 1 else low, exponent⟩]

/-- The shortest decimal that reads back as the positive number `m * 2 ^ q`.  Seventeen places
always suffice. -/
def shortest (significand : Nat) (exponent : Int) : Decimal :=
  let x := pack false significand exponent
  let (num, den) := rescale 2 significand 1 (-exponent)
  let top := decimalExponent num den
  let grids := (List.range 17).map fun (places : Nat) => top - places
  let candidates := grids.flatMap (neighbours num den)
  (candidates.find? (·.readsBack x)).getD ⟨significand, 0⟩

/-- The significant digits, without zeros at the end, and the exponent of the first of them. -/
def Decimal.places (d : Decimal) : List Char × Int :=
  let digits := decimalDigits d.coefficient
  ((digits.reverse.dropWhile (· == '0')).reverse, d.exponent + digits.length - 1)

def positional (digits : List Char) (exponent : Int) : List Char :=
  if exponent < 0 then
    '0' :: '.' :: (List.replicate (-exponent - 1).toNat '0' ++ digits)
  else
    let whole := exponent.toNat + 1
    if digits.length ≤ whole then
      digits ++ List.replicate (whole - digits.length) '0' ++ ['.', '0']
    else
      digits.take whole ++ '.' :: digits.drop whole

def scientific (digits : List Char) (exponent : Int) : List Char :=
  let mantissa :=
    match digits with
    | [] => []
    | [d] => [d]
    | d :: rest => d :: '.' :: rest
  let size := decimalDigits exponent.natAbs
  mantissa ++ 'e' :: (if exponent < 0 then '-' else '+') ::
    (List.replicate (2 - size.length) '0' ++ size)

/-- Positional notation covers the decimal exponents -4 to 15. -/
def layout (digits : List Char) (exponent : Int) : List Char :=
  if -4 ≤ exponent ∧ exponent < 16 then positional digits exponent
  else scientific digits exponent

def chars : Binary64 → List Char
  | .nan => ['n', 'a', 'n']
  | .infinite negative => (if negative then ['-'] else []) ++ ['i', 'n', 'f']
  | .finite negative significand exponent _ =>
    (if negative then ['-'] else []) ++
      (if significand = 0 then ['0', '.', '0']
       else
        let (digits, top) := (shortest significand exponent).places
        layout digits top)

def text (x : Binary64) : String :=
  String.ofList x.chars

end LogSelect.Binary64

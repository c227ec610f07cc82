import LogSelect.Datum
import LogSelect.Number.Arithmetic
import LogSelect.Text.Blank
import LogSelect.Text.Case
import LogSelect.Text.Lines
import LogSelect.Yaml.Kind
import LogSelect.Yaml.Scalar

/-!
The values of YAML scalars, by their kinds.
-/

namespace LogSelect.Yaml

def truthOf (text : String) : Except Error Bool :=
  let word := lowerText text
  if ["yes", "true", "on"].contains word then .ok true
  else if ["no", "false", "off"].contains word then .ok false
  else .error (.unknownTruth word)

def baseDigit? (base : Nat) (c : Char) : Option Nat :=
  ((digitValue? c).or (hexDigit? c)).filter (· < base)

/-- A row of digits of a base, with the mark of the base in front of it or not. -/
def digitsIn? (base : Nat) (mark : Option Char) (cs : List Char) : Option Nat :=
  let digits :=
    match mark, cs with
    | some mark, '0' :: c :: rest => if c = mark ∨ c = mark.toUpper then rest else cs
    | _, _ => cs
  if digits.isEmpty then none
  else (digits.mapM (baseDigit? base)).map fun ds => ds.foldl (fun n d => n * base + d) 0

def wholeIn (base : Nat) (mark : Option Char) (cs : List Char) : Except Error Int :=
  let (negative, digits) := Numeral.takeSign (strip cs)
  match digitsIn? base mark digits with
  | none => .error .badScalar
  | some n =>
    if mark.isNone && maxWholeDigits < digits.length then .error .badScalar
    else .ok (if negative then -(n : Int) else n)

def undivided (text : String) : List Char :=
  text.toList.filter (· != '_')

/-- Digits in base 60, the last one first, as a sum of their multiples. -/
def sumOfSixties (digits : List Int) : Int :=
  digits.foldr (fun d sum => d + 60 * sum) 0

def unsignedWhole (cs : List Char) : Except Error Int :=
  match cs with
  | [] => .error .emptyNumber
  | ['0'] => .ok 0
  | '0' :: 'b' :: rest => wholeIn 2 (some 'b') rest
  | '0' :: 'x' :: rest => wholeIn 16 (some 'x') rest
  | '0' :: _ => wholeIn 8 (some 'o') cs
  | _ =>
    if cs.contains ':' then
      ((splitAt ':' cs).mapM (wholeIn 10 none)).map fun digits => sumOfSixties digits.reverse
    else
      wholeIn 10 none cs

def wholeOf (text : String) : Except Error Int :=
  match undivided text with
  | [] => .error .emptyNumber
  | cs =>
    let (negative, digits) := Numeral.takeSign cs
    (unsignedWhole digits).map fun n => if negative then -n else n

def realIn (cs : List Char) : Except Error Binary64 :=
  let cs := strip cs
  let (negative, rest) := Numeral.takeSign cs
  let word := String.ofList rest
  if word = "inf" ∨ word = "infinity" then .ok (.infinite negative)
  else if word = "nan" then .ok .nan
  else
    match Numeral.read? cs with
    | some numeral => .ok numeral.realValue
    | none => .error .badScalar

def sumOfRealSixties : (weight : Nat) → (sum : Binary64) → List Binary64 → Binary64
  | _, sum, [] => sum
  | weight, sum, d :: ds => sumOfRealSixties (weight * 60) (sum.add (d.mul (.ofNat weight))) ds

def unsignedReal (cs : List Char) : Except Error Binary64 :=
  if cs = ".inf".toList then .ok (.infinite false)
  else if cs = ".nan".toList then .ok .nan
  else if cs.contains ':' then
    ((splitAt ':' cs).mapM realIn).map fun digits =>
      sumOfRealSixties 1 (.signedZero false) digits.reverse
  else
    realIn cs

def realOf (text : String) : Except Error Binary64 :=
  match undivided (lowerText text) with
  | [] => .error .emptyNumber
  | cs =>
    let (negative, digits) := Numeral.takeSign cs
    (unsignedReal digits).map fun x => if negative then x.negate else x

def timestampPattern : Pattern :=
  Kind.pattern ("^(?P<year>[0-9][0-9][0-9][0-9])-(?P<month>[0-9][0-9]?)-(?P<day>[0-9][0-9]?)" ++
    "(?:(?:[Tt]|[ \\t]+)(?P<hour>[0-9][0-9]?):(?P<minute>[0-9][0-9]):(?P<second>[0-9][0-9])" ++
    "(?:\\.(?P<fraction>[0-9]*))?" ++
    "(?:[ \\t]*(?P<tz>Z|(?P<sign>[-+])(?P<hours>[0-9][0-9]?)(?::(?P<minutes>[0-9][0-9]))?))?)?$")

def partNumber (part : Option String) : Nat :=
  ofDigits (digitValues (part.getD "").toList)

/-- The microseconds of a fraction, of which six digits count. -/
def microseconds (fraction : Option String) : Nat :=
  let digits := ((fraction.getD "").toList.take 6)
  partNumber (some (String.ofList (digits ++ List.replicate (6 - digits.length) '0')))

def offsetOf (parts : String → Option String) : Option Int :=
  (parts "tz").map fun _ =>
    let seconds : Int := (partNumber (parts "hours") * 60 + partNumber (parts "minutes")) * 60
    if parts "sign" = some "-" then -seconds else seconds

/-- The date or moment that a scalar spells.  It must exist, and its offset be less than a day. -/
def timestampOf (text : String) : Except Error Datum :=
  match timestampPattern.search text with
  | none => .error .noTimestamp
  | some parts =>
    let number (name : String) : Nat := partNumber (parts name)
    let date : Calendar.Date := ⟨number "year", number "month", number "day"⟩
    let offset := offsetOf parts
    if !date.isValid then .error .badScalar
    else if (parts "hour").isNone then .ok (.date date)
    else if 23 < number "hour" ∨ 59 < number "minute" ∨ 59 < number "second" ∨
        offset.any (86400 ≤ ·.natAbs) then
      .error .badScalar
    else
      .ok (.moment ⟨date, number "hour", number "minute", number "second",
        microseconds (parts "fraction"), offset⟩)

def sixBits? (c : Char) : Option Nat :=
  let n := c.toNat
  if c.isUpper then some (n - 65)
  else if c.isLower then some (n - 71)
  else if c.isDigit then some (n + 4)
  else if c = '+' then some 62
  else if c = '/' then some 63
  else none

/-- The bytes of a text in base 64.  `place` is the number of characters since the last full group
of four, `bits` what the last of them left over, and `pads` the number of equal signs behind it.
Other characters do not count, and nothing counts behind the end of a padded group. -/
def bytesFrom (place bits pads : Nat) : List Char → Except Error (List Nat)
  | [] => if place = 0 then .ok [] else .error .malformed
  | c :: rest =>
    if c = '=' then
      if 2 ≤ place ∧ 4 ≤ place + pads + 1 then .ok []
      else bytesFrom place bits (if 2 ≤ place then pads + 1 else pads) rest
    else
      match sixBits? c with
      | none => bytesFrom place bits pads rest
      | some n =>
        match place with
        | 0 => bytesFrom 1 n 0 rest
        | 1 => (bytesFrom 2 (n % 16) 0 rest).map ((bits * 4 + n / 16) :: ·)
        | 2 => (bytesFrom 3 (n % 4) 0 rest).map ((bits * 16 + n / 4) :: ·)
        | _ => (bytesFrom 0 0 0 rest).map ((bits * 64 + n) :: ·)

def bytesOf (text : String) : Except Error (List Nat) :=
  if text.toList.all (·.toNat < 128) then bytesFrom 0 0 0 text.toList else .error .malformed

def valueOf (kind : Kind) (text : String) : Except Error Datum :=
  match kind with
  | .null => .ok .null
  | .truth => (truthOf text).map .bool
  | .whole => (wholeOf text).map fun n => .number (.int n)
  | .real => (realOf text).map fun x => .number (.real x)
  | .text => .ok (.text text)
  | .bytes => (bytesOf text).map .bytes
  | .timestamp => timestampOf text
  | .sequence | .mapping | .set | .pairs | .merge | .default | .unknown => .error .malformed

end LogSelect.Yaml

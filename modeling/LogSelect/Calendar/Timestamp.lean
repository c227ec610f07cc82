import LogSelect.Calendar.Date

/-!
Timestamps of ISO 8601, as far as they are recognised.

A timestamp is a calendar or week date, in basic or extended form, optionally followed by one
separator character of any kind and a time.  The time has hours, and may have minutes, seconds and
a fraction, with or without colons, and an offset from UTC of less than a day.  Texts are read as
bytes, and a byte past the end counts as zero.

The reader is lenient in two places: one character between the time and the sign of the offset is
passed over, and a fraction may follow the seconds directly or behind a colon.
-/

namespace LogSelect.Calendar

def digit? (b : Nat) : Option Nat :=
  if 48 ≤ b ∧ b ≤ 57 then some (b - 48) else none

/-- A number of exactly `count` further digits at the front, behind digits of value `before`. -/
def takeNumberFrom? (before : Nat) : (count : Nat) → List Nat → Option (Nat × List Nat)
  | 0, bytes => some (before, bytes)
  | _ + 1, [] => none
  | count + 1, b :: rest => (digit? b).bind fun d => takeNumberFrom? (before * 10 + d) count rest

def takeNumber? (count : Nat) (bytes : List Nat) : Option (Nat × List Nat) :=
  takeNumberFrom? 0 count bytes

def hyphen : Nat := 45
def plus : Nat := 43
def colon : Nat := 58
def letterW : Nat := 87
def letterZ : Nat := 90

def byteAt (bytes : List Nat) (i : Nat) : Nat :=
  bytes.getD i 0

/-- Where the date ends.  Week dates are ambiguous: behind `YYYY-Www-` two further digits are
taken for a time, and behind `YYYYWww` an odd number of digits holds the day. -/
def dateEnd (bytes : List Nat) : Nat :=
  if bytes.length = 7 then
    7
  else if byteAt bytes 4 = hyphen then
    if byteAt bytes 5 = letterW then
      if byteAt bytes 8 = hyphen ∧ (digit? (byteAt bytes 10)).isNone then 10 else 8
    else
      10
  else if byteAt bytes 4 = letterW then
    let stop := 7 + ((bytes.drop 7).takeWhile fun b => (digit? b).isSome).length
    if stop < 9 then stop else if stop % 2 = 0 then 7 else 8
  else
    8

/-- A week date of `size` bytes; the day may be missing. -/
def isWeekDate (year : Nat) (extended : Bool) (size : Nat) (bytes : List Nat) : Bool :=
  match takeNumber? 2 bytes with
  | none => false
  | some (week, rest) =>
    if (if extended then 8 else 7) < size then
      if extended && rest.headD 0 != hyphen then false
      else
        match takeNumber? 1 (if extended then rest.drop 1 else rest) with
        | none => false
        | some (day, _) => WeekDate.inCalendar ⟨year, week, day⟩
    else
      WeekDate.inCalendar ⟨year, week, 1⟩

def isMonthDate (year : Nat) (extended : Bool) (size : Nat) (bytes : List Nat) : Bool :=
  match takeNumber? 2 bytes with
  | none => false
  | some (month, rest) =>
    if extended && rest.headD 0 != hyphen then false
    else
      match takeNumber? 2 (if extended then rest.drop 1 else rest) with
      | none => false
      | some (day, _) => size == (if extended then 10 else 8) && Date.isValid ⟨year, month, day⟩

def isDate (size : Nat) (bytes : List Nat) : Bool :=
  match takeNumber? 4 bytes with
  | none => false
  | some (year, rest) =>
    let extended := rest.headD 0 == hyphen
    let rest := if extended then rest.drop 1 else rest
    if rest.headD 0 = letterW then isWeekDate year extended size (rest.drop 1)
    else isMonthDate year extended size rest

/-- The parts of a time, and whether a further character stands behind it. -/
structure Clock where
  parts : List Nat
  more : Bool

/-- A fraction of which `size` bytes, at least one, lie before the end of the time.  Six digits are
required where so many bytes lie there; further digits are passed over. -/
def readFraction? (size : Nat) (bytes : List Nat) : Option Clock := do
  let (_, rest) ← takeNumber? (if 6 ≤ size then 6 else size) bytes
  let rest := rest.dropWhile fun b => (digit? b).isSome
  return ⟨[], rest.headD 0 != 0⟩

/-- Up to `count` numbers of two digits and a fraction, in the first `size` bytes.  The character
behind the first number decides whether colons separate them. -/
def readClock? (colons : Option Bool) :
    (count size : Nat) → List Nat → Option Clock
  | 0, size, bytes => readFraction? size bytes
  | count + 1, size, bytes => do
    let (value, rest) ← takeNumber? 2 bytes
    let sign := rest.headD 0
    let separated := colons.getD (sign == colon)
    let clock ←
      if size ≤ 3 then some ⟨[], sign != 0⟩
      else if separated && sign == colon then
        readClock? (some separated) count (size - 3) (rest.drop 1)
      else if sign = 46 ∨ sign = 44 then readFraction? (size - 3) (rest.drop 1)
      else if !separated then readClock? (some separated) count (size - 2) rest
      else none
    return { clock with parts := value :: clock.parts }

def clockSeconds (parts : List Nat) : Nat :=
  parts.getD 0 0 * 3600 + parts.getD 1 0 * 60 + parts.getD 2 0

def isTimeOfDay (parts : List Nat) : Bool :=
  parts.getD 0 0 < 24 && parts.getD 1 0 < 60 && parts.getD 2 0 < 60

def isTime (bytes : List Nat) : Bool :=
  let size := (bytes.takeWhile fun b => b != plus && b != hyphen && b != letterZ).length
  match readClock? none 3 size bytes with
  | none => false
  | some clock =>
    isTimeOfDay clock.parts &&
      (match bytes.drop size with
      | [] => !clock.more
      | sign :: zone =>
        if sign = letterZ then zone.headD 0 == 0
        else
          match readClock? none 3 zone.length zone with
          | none => false
          | some offset => !offset.more && clockSeconds offset.parts < 86400)

def dropSeparator (bytes : List Nat) : List Nat :=
  let lead := bytes.headD 0
  bytes.drop
    (if lead < 128 then 1 else if lead / 16 = 14 then 3 else if lead / 16 = 15 then 4 else 2)

def isTimestamp (text : String) : Bool :=
  let bytes := text.toUTF8.toList.map UInt8.toNat
  let size := dateEnd bytes
  7 ≤ bytes.length && isDate size bytes &&
    (bytes.length ≤ size || isTime (dropSeparator (bytes.drop size)))

end LogSelect.Calendar

import LogSelect.Calendar.Date
import LogSelect.Number.Numeral
import LogSelect.Text.Quoted

/-!
Structured data, as configuration documents hold it: scalars, lists and mappings in the order of
the document, and the scalars that only some formats have.
-/

namespace LogSelect

structure Moment where
  date : Calendar.Date
  hour : Nat
  minute : Nat
  second : Nat
  microsecond : Nat
  offset : Option Int
  deriving DecidableEq, Repr

inductive Datum where
  | null
  | bool (b : Bool)
  | number (n : Number)
  | text (s : String)
  | list (items : List Datum)
  /-- A pair of a list of pairs. -/
  | pair (first second : Datum)
  | map (entries : List (Datum × Datum))
  | set (members : List Datum)
  | date (d : Calendar.Date)
  | moment (m : Moment)
  | bytes (bs : List Nat)

namespace Datum

mutual

def same : Datum → Datum → Bool
  | .null, .null => true
  | .bool a, .bool b => a == b
  | .number m, .number n => m == n
  | .text s, .text t => s == t
  | .list items, .list items' => sameAll items items'
  | .pair a b, .pair a' b' => a.same a' && b.same b'
  | .map entries, .map entries' => sameEntries entries entries'
  | .set members, .set members' => sameAll members members'
  | .date d, .date d' => d == d'
  | .moment m, .moment m' => m == m'
  | .bytes bs, .bytes bs' => bs == bs'
  | _, _ => false

def sameAll : List Datum → List Datum → Bool
  | [], [] => true
  | a :: as, b :: bs => a.same b && sameAll as bs
  | _, _ => false

def sameEntries : List (Datum × Datum) → List (Datum × Datum) → Bool
  | [], [] => true
  | (k, v) :: rest, (k', v') :: rest' => k.same k' && v.same v' && sameEntries rest rest'
  | _, _ => false

end

def keyNumber? : Datum → Option Number
  | .bool b => some (.int (if b then 1 else 0))
  | .number n => some n
  | _ => none

/-- Whether two data are the same key of a mapping.  Truth values count as the numbers 0 and 1. -/
def sameKey (a b : Datum) : Bool :=
  match a.keyNumber?, b.keyNumber? with
  | some m, some n => m.sameValue n
  | none, none => a.same b
  | _, _ => false

/-- Give a key a value: a known key keeps its place. -/
def putKey (key value : Datum) : List (Datum × Datum) → List (Datum × Datum)
  | [] => [(key, value)]
  | (other, old) :: rest =>
    if other.sameKey key then (other, value) :: rest else (other, old) :: putKey key value rest

def mapOf (entries : List (Datum × Datum)) : Datum :=
  .map (entries.foldl (fun known (key, value) => putKey key value known) [])

def lookupText (name : String) : List (Datum × Datum) → Option Datum
  | [] => none
  | (.text key, value) :: rest => if key = name then some value else lookupText name rest
  | _ :: rest => lookupText name rest

/-- Whether a datum counts as true: all but null, false, zero and what is empty. -/
def truthy : Datum → Bool
  | .null => false
  | .bool b => b
  | .number n => !n.sameValue (.int 0)
  | .text s => !s.isEmpty
  | .list items => !items.isEmpty
  | .map entries => !entries.isEmpty
  | .set members => !members.isEmpty
  | .bytes bs => !bs.isEmpty
  | .pair _ _ | .date _ | .moment _ => true

def padded (width n : Nat) : String :=
  let digits := toString n
  String.ofList (List.replicate (width - digits.length) '0') ++ digits

def offsetText (seconds : Int) : String :=
  let n := seconds.natAbs
  (if seconds < 0 then "-" else "+") ++ padded 2 (n / 3600) ++ ":" ++ padded 2 (n / 60 % 60) ++
    (if n % 60 = 0 then "" else ":" ++ padded 2 (n % 60))

def dateText (d : Calendar.Date) : String :=
  padded 4 d.year ++ "-" ++ padded 2 d.month ++ "-" ++ padded 2 d.day

def momentText (m : Moment) : String :=
  dateText m.date ++ " " ++ padded 2 m.hour ++ ":" ++ padded 2 m.minute ++ ":" ++
    padded 2 m.second ++
    (if m.microsecond = 0 then "" else "." ++ padded 6 m.microsecond) ++
    (m.offset.map offsetText).getD ""

def describeOffset (seconds : Int) : String :=
  if seconds = 0 then
    "datetime.timezone.utc"
  else
    let days := seconds / 86400
    let rest := seconds % 86400
    let parts :=
      (if days = 0 then [] else ["days=" ++ toString days]) ++
        (if rest = 0 then [] else ["seconds=" ++ toString rest])
    "datetime.timezone(datetime.timedelta(" ++ ", ".intercalate parts ++ "))"

def describeDate (d : Calendar.Date) : String :=
  "datetime.date(" ++ ", ".intercalate ([d.year, d.month, d.day].map toString) ++ ")"

/-- The quoted form of a moment: seconds and microseconds only where they are not zero. -/
def describeMoment (m : Moment) : String :=
  let small : List Nat :=
    if m.microsecond = 0 then (if m.second = 0 then [] else [m.second])
    else [m.second, m.microsecond]
  let numbers := [m.date.year, m.date.month, m.date.day, m.hour, m.minute] ++ small
  "datetime.datetime(" ++ ", ".intercalate (numbers.map toString) ++
    (m.offset.map fun offset => ", tzinfo=" ++ describeOffset offset).getD "" ++ ")"

def describeByte (quote : Char) (b : Nat) : List Char :=
  let c := Char.ofNat b
  if c = quote ∨ c = '\\' then ['\\', c]
  else if c = '\n' then ['\\', 'n']
  else if c = '\r' then ['\\', 'r']
  else if c = '\t' then ['\\', 't']
  else if 32 ≤ b ∧ b < 127 then [c]
  else '\\' :: 'x' :: Quoted.hex 2 b

def describeBytes (bs : List Nat) : String :=
  let quote := Quoted.quoteFor (bs.map Char.ofNat)
  String.ofList ('b' :: quote :: (bs.flatMap (describeByte quote) ++ [quote]))

mutual

def describe : Datum → String
  | .null => "None"
  | .bool b => if b then "True" else "False"
  | .number n => n.text
  | .text s => quoted s
  | .list items => "[" ++ ", ".intercalate (describeAll items) ++ "]"
  | .pair first second => "(" ++ first.describe ++ ", " ++ second.describe ++ ")"
  | .map entries => "\x7b" ++ ", ".intercalate (describeEntries entries) ++ "\x7d"
  | .set [] => "set()"
  | .set members => "\x7b" ++ ", ".intercalate (describeAll members) ++ "\x7d"
  | .date d => describeDate d
  | .moment m => describeMoment m
  | .bytes bs => describeBytes bs

def describeAll : List Datum → List String
  | [] => []
  | item :: items => item.describe :: describeAll items

def describeEntries : List (Datum × Datum) → List String
  | [] => []
  | (key, value) :: entries =>
    (key.describe ++ ": " ++ value.describe) :: describeEntries entries

end

/-- A datum as a text: a text is itself, dates are in ISO form, all else is as messages cite it. -/
def toText : Datum → String
  | .text s => s
  | .date d => dateText d
  | .moment m => momentText m
  | datum => datum.describe

mutual

/-- Whether a datum can be cited: none of its whole numbers has more digits than can be read, and
its bytes are less than 256. -/
def isCitable : Datum → Bool
  | .number (.int n) => n.natAbs < Nat.pow 10 maxWholeDigits
  | .list items => areCitable items
  | .pair first second => first.isCitable && second.isCitable
  | .map entries => entriesAreCitable entries
  | .set members => areCitable members
  | .bytes bs => bs.all (· < 256)
  | _ => true

def areCitable : List Datum → Bool
  | [] => true
  | item :: items => item.isCitable && areCitable items

def entriesAreCitable : List (Datum × Datum) → Bool
  | [] => true
  | (key, value) :: entries => key.isCitable && value.isCitable && entriesAreCitable entries

end

end Datum

end LogSelect

import LogSelect.Calendar.Timestamp
import LogSelect.Text.Blank
import LogSelect.Text.Case
import LogSelect.Text.Quoted
import LogSelect.Value

/-!
Columns of a schema and their types.

A text column takes captured text as it is.  A numeric column converts it to a number, and a truth
or timestamp column only checks it.  Blanks around the text do not count in the check.
-/

namespace LogSelect

inductive ColumnType where
  | string | i32 | i64 | bool | float | double | datetime
  deriving DecidableEq, Repr

namespace ColumnType

def name : ColumnType → String
  | .string => "string"
  | .i32 => "i32"
  | .i64 => "i64"
  | .bool => "bool"
  | .float => "float"
  | .double => "double"
  | .datetime => "datetime"

def spellings : List (String × ColumnType) :=
  [("string", .string), ("str", .string), ("i32", .i32), ("int32", .i32), ("int", .i32),
    ("i64", .i64), ("int64", .i64), ("long", .i64), ("bool", .bool), ("boolean", .bool),
    ("float", .float), ("f32", .float), ("double", .double), ("f64", .double),
    ("datetime", .datetime)]

def ofText? (s : String) : Option ColumnType :=
  spellings.lookup (lowerText s)

@[simp]
theorem ofText?_name (type : ColumnType) : ofText? type.name = some type := by
  cases type <;> decide +kernel

end ColumnType

/-- A column: a named group of the pattern, and how its text is read. -/
structure Column where
  name : String
  /-- Whether lines that match nothing are added to this column. -/
  multiline : Bool
  type : ColumnType
  deriving DecidableEq, Repr

inductive ConvertError where
  | mismatch (column : String) (type : ColumnType) (text : String)
  /-- A whole number of so many digits. -/
  | numberTooLong (digits : Nat)
  deriving DecidableEq, Repr

namespace Column

def wholeNumeral? (cs : List Char) : Option Numeral :=
  let (negative, digits) := Numeral.takeSign cs
  if digits.isEmpty || !digits.all isAsciiDigit then none
  else some ⟨negative, digitValues digits, none, none⟩

def fits (bits : Nat) (n : Int) : Bool :=
  let bound : Int := Nat.pow 2 (bits - 1)
  n < bound && -bound ≤ n

def convertWhole (column : Column) (bits : Nat) (text : String) : Except ConvertError Value :=
  match wholeNumeral? (strip text.toList) with
  | none => .error (.mismatch column.name column.type text)
  | some numeral =>
    if maxWholeDigits < numeral.whole.length then .error (.numberTooLong numeral.whole.length)
    else if fits bits numeral.wholeValue then .ok (.number (.int numeral.wholeValue))
    else .error (.mismatch column.name column.type text)

/-- A text column's own text, if a check passes. -/
def convertChecked (column : Column) (passes : Bool) (text : String) :
    Except ConvertError Value :=
  if passes then .ok (.text text) else .error (.mismatch column.name column.type text)

/-- The sign for UTC is read as an offset. -/
def spellOutZulu (cs : List Char) : List Char :=
  cs.flatMap fun c => if c = 'Z' then ['+', '0', '0', ':', '0', '0'] else [c]

def convert (column : Column) (text : String) : Except ConvertError Value :=
  match column.type with
  | .string => .ok (.text text)
  | .i32 => column.convertWhole 32 text
  | .i64 => column.convertWhole 64 text
  | .float | .double =>
    match Number.ofText? (stripText text) with
    | some n => .ok (.number n)
    | none => .error (.mismatch column.name column.type text)
  | .bool => column.convertChecked (["true", "false"].contains (lowerText (stripText text))) text
  | .datetime =>
    column.convertChecked
      (Calendar.isTimestamp (String.ofList (spellOutZulu (strip text.toList)))) text

end Column

def ConvertError.message : ConvertError → String
  | .mismatch column type text =>
    "Value " ++ quoted text ++ " of column '" ++ column ++ "' is not a valid " ++ type.name
  | .numberTooLong digits =>
    "Exceeds the limit (" ++ toString maxWholeDigits ++
      " digits) for integer string conversion: value has " ++ toString digits ++
      " digits; use sys.set_int_max_str_digits() to increase the limit"

end LogSelect

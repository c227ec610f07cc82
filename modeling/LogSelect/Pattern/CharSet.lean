import LogSelect.Text.Blank
import LogSelect.Text.Case
import LogSelect.Text.Digits
import LogSelect.Text.Letters

/-!
Sets of characters, as patterns name them.

A set lists characters, ranges and classes, and may be negated.  Where case is ignored a character
belongs to the set if its lower-case form equals that of a listed one, or if the two are known to
be variants of each other.  Codes are numbers, since a pattern may name codes that are no
characters.
-/

namespace LogSelect.Pattern

/-- How characters are told apart: by themselves, or ignoring the case of ASCII letters or of all
letters. -/
inductive Folding where
  | none
  | ascii
  | unicode
  deriving DecidableEq, Repr

inductive Category where
  | digit
  | space
  | word
  deriving DecidableEq, Repr

inductive SetItem where
  | single (code : Nat)
  | range (low high : Nat)
  /-- A class, or what is outside it; some classes are restricted to ASCII. -/
  | category (kind : Category) (ascii negated : Bool)
  deriving DecidableEq, Repr

structure CharSet where
  negated : Bool
  items : List SetItem
  folding : Folding
  deriving DecidableEq, Repr

/-- Lower-case letters that are variants of each other though their case mappings differ. -/
def caseVariants : List (Nat × List Nat) := [
  (105, [305]), (115, [383]), (181, [956]), (305, [105]), (383, [115]), (837, [953, 8126]),
  (912, [8147]), (944, [8163]), (946, [976]), (949, [1013]), (952, [977]), (953, [837, 8126]),
  (954, [1008]), (956, [181]), (960, [982]), (961, [1009]), (962, [963]), (963, [962]),
  (966, [981]), (976, [946]), (977, [952]), (981, [966]), (982, [960]), (1008, [954]),
  (1009, [961]), (1013, [949]), (1074, [7296]), (1076, [7297]), (1086, [7298]), (1089, [7299]),
  (1090, [7300, 7301]), (1098, [7302]), (1123, [7303]), (7296, [1074]), (7297, [1076]),
  (7298, [1086]), (7299, [1089]), (7300, [1090, 7301]), (7301, [1090, 7300]), (7302, [1098]),
  (7303, [1123]), (7304, [42571]), (7777, [7835]), (7835, [7777]), (8126, [837, 953]),
  (8147, [912]), (8163, [944]), (42571, [7304]), (64261, [64262]), (64262, [64261])]

def variantsOf (code : Nat) : List Nat :=
  (caseVariants.lookup code).getD []

def lowerCode (code : Nat) : Nat :=
  if code.isValidChar then
    ((lowerCase.image (Char.ofNat code)).head?.map Char.toNat).getD code
  else
    code

def lowerAscii (code : Nat) : Nat :=
  if 65 ≤ code ∧ code ≤ 90 then code + 32 else code

def CaseRun.preimage? (run : CaseRun) (code : Nat) : Option Nat :=
  let origin := code - run.shift
  if run.first ≤ origin ∧ origin ≤ run.last ∧ (origin - run.first) % run.stride = 0 then
    some origin.toNat
  else
    .none

def lowerPreimages (code : Nat) : List Nat :=
  (if lowerCode code = code then [code] else []) ++
    lowerCase.runs.filterMap (CaseRun.preimage? · code) ++
    (lowerCase.expansions.filter fun entry => entry.2.head? == some code).map Prod.fst

def sameFolded (folding : Folding) (a b : Nat) : Bool :=
  match folding with
  | .none => a == b
  | .ascii => lowerAscii a == lowerAscii b
  | .unicode => lowerCode a == lowerCode b

def inFoldedRange (folding : Folding) (low high code : Nat) : Bool :=
  let inside (n : Nat) : Bool := low ≤ n && n ≤ high
  match folding with
  | .none => inside code
  | .ascii =>
    inside code || inside (lowerAscii code) ||
      (97 ≤ lowerAscii code && lowerAscii code ≤ 122 && inside (lowerAscii code - 32))
  | .unicode =>
    let lower := lowerCode code
    (lower :: variantsOf lower).any fun form => (lowerPreimages form).any inside

/-- Whether a code equals a listed one up to case, variants included. -/
def matchesCode (folding : Folding) (listed code : Nat) : Bool :=
  sameFolded folding listed code ||
    (folding == .unicode && (variantsOf (lowerCode listed)).contains (lowerCode code))

def Category.contains (category : Category) (ascii : Bool) (c : Char) : Bool :=
  match category, ascii with
  | .digit, false => isDigit c
  | .digit, true => isAsciiDigit c
  | .space, false => isBlank c
  | .space, true => c.toNat == 32 || (9 ≤ c.toNat && c.toNat ≤ 13)
  | .word, false => isWordSign c || c == '_'
  | .word, true => c.isAlphanum || c == '_'

/-- Whether a member of the list covers a character.  A code outside the basic plane is compared
with the lower-case form as it stands. -/
def SetItem.covers (folding : Folding) (c : Char) : SetItem → Bool
  | .single code =>
    if folding == .unicode && 0x10000 ≤ code then lowerCode c.toNat == code
    else matchesCode folding code c.toNat
  | .range low high => inFoldedRange folding low high c.toNat
  | .category kind ascii negated => kind.contains ascii c != negated

def CharSet.contains (set : CharSet) (c : Char) : Bool :=
  set.items.any (·.covers set.folding c) != set.negated

end LogSelect.Pattern

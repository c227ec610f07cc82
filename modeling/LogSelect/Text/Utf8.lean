/-!
Texts from bytes in UTF-8, and the lines of a text.

A reader may be strict, refusing a text with a malformed sequence, or lenient, putting U+FFFD in
the place of each.  A malformed sequence is as long as it could have begun a well-formed one: the
lead byte with the continuation bytes that it admits.
-/

namespace LogSelect.Utf8

structure Lead where
  count : Nat
  low : Nat
  high : Nat
  /-- The bits that the lead byte contributes. -/
  bits : Nat

/-- What a lead byte announces.  The bounds exclude overlong forms, surrogates and codes past
U+10FFFF. -/
def lead? (b : Nat) : Option Lead :=
  if b < 0x80 then some ⟨0, 0, 0, b⟩
  else if b < 0xC2 then none
  else if b < 0xE0 then some ⟨1, 0x80, 0xBF, b - 0xC0⟩
  else if b = 0xE0 then some ⟨2, 0xA0, 0xBF, 0⟩
  else if b = 0xED then some ⟨2, 0x80, 0x9F, 13⟩
  else if b < 0xF0 then some ⟨2, 0x80, 0xBF, b - 0xE0⟩
  else if b = 0xF0 then some ⟨3, 0x90, 0xBF, 0⟩
  else if b < 0xF4 then some ⟨3, 0x80, 0xBF, b - 0xF0⟩
  else if b = 0xF4 then some ⟨3, 0x80, 0x8F, 4⟩
  else none

/-- Read `count` continuation bytes, the first of them within the bounds.  The second component
is the number of bytes that were admitted. -/
def continuation (count low high bits taken : Nat) (bytes : List Nat) : Option Nat × Nat :=
  match count, bytes with
  | 0, _ => (some bits, taken)
  | _ + 1, [] => (none, taken)
  | count + 1, b :: rest =>
    if low ≤ b ∧ b ≤ high then
      continuation count 0x80 0xBF (bits * 64 + (b - 0x80)) (taken + 1) rest
    else
      (none, taken)

/-- One character or malformed sequence, with the number of further bytes it takes. -/
def scan (b : Nat) (rest : List Nat) : Option Char × Nat :=
  match lead? b with
  | none => (none, 0)
  | some lead =>
    let (code?, taken) := continuation lead.count lead.low lead.high lead.bits 0 rest
    (code?.map Char.ofNat, taken)

def scanAll : List Nat → List (Option Char)
  | [] => []
  | b :: rest =>
    let (c?, taken) := scan b rest
    c? :: scanAll (rest.drop taken)
  termination_by bytes => bytes.length

/-- U+FFFD stands in the place of every malformed sequence. -/
def decodeLossy (bytes : List Nat) : List Char :=
  (scanAll bytes).map (·.getD '\uFFFD')

def decode? (bytes : List Nat) : Option (List Char) :=
  (scanAll bytes).mapM id

end LogSelect.Utf8

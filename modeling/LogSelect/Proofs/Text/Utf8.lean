import Mathlib.Data.List.Basic
import LogSelect.Calendar.Timestamp

/-!
Texts as bytes in UTF-8.

A character of ASCII is one byte, its code.  All bytes of other characters lie above ASCII, so a
byte of ASCII in a text is a character of it.
-/

namespace LogSelect.Utf8

theorem toList_loop (bs : ByteArray) (i : Nat) (front : List UInt8) :
    ByteArray.toList.loop bs i front = front.reverse ++ bs.data.toList.drop i := by
  fun_induction ByteArray.toList.loop bs i front with
  | case1 i front inside ih =>
    have within : i < bs.data.toList.length := by simpa using inside
    rw [ih, List.drop_eq_getElem_cons within]
    simp [ByteArray.get!, inside]
  | case2 i front outside =>
    rw [List.drop_eq_nil_of_le (by simpa using Nat.le_of_not_lt outside), List.append_nil]

def encodeChar (c : Char) : List Nat :=
  (String.utf8EncodeChar c).map UInt8.toNat

def encode (cs : List Char) : List Nat :=
  cs.flatMap encodeChar

theorem toUTF8_ofList (cs : List Char) :
    (String.ofList cs).toUTF8.toList.map UInt8.toNat = encode cs := by
  change (String.ofList cs).toByteArray.toList.map UInt8.toNat = encode cs
  rw [String.toByteArray_ofList, ByteArray.toList, toList_loop]
  simp only [List.utf8Encode, encode, List.reverse_nil, List.nil_append, List.drop_zero,
    List.toList_data_toByteArray, List.map_flatMap]
  rfl

@[simp]
theorem encode_nil : encode [] = [] := rfl

@[simp]
theorem encode_cons (c : Char) (cs : List Char) : encode (c :: cs) = encodeChar c ++ encode cs :=
  List.flatMap_cons

@[simp]
theorem encode_append (cs ds : List Char) : encode (cs ++ ds) = encode cs ++ encode ds :=
  List.flatMap_append

theorem encodeChar_eq (c : Char) :
    encodeChar c =
      if c.toNat ≤ 127 then [c.toNat]
      else if c.toNat ≤ 2047 then [c.toNat / 64 % 32 + 192, c.toNat % 64 + 128]
      else if c.toNat ≤ 65535 then
        [c.toNat / 4096 % 16 + 224, c.toNat / 64 % 64 + 128, c.toNat % 64 + 128]
      else
        [c.toNat / 262144 % 8 + 240, c.toNat / 4096 % 64 + 128, c.toNat / 64 % 64 + 128,
          c.toNat % 64 + 128] := by
  have byte {n : Nat} (fits : n < 256) : (UInt8.ofNat n).toNat = n :=
    (UInt8.toNat_ofNat').trans (Nat.mod_eq_of_lt fits)
  unfold encodeChar String.utf8EncodeChar
  dsimp only
  rw [Char.toNat_val]
  split
  next => rw [List.map_singleton, byte (by omega)]
  next =>
    split
    next =>
      simp only [List.map_cons, List.map_nil]
      rw [byte (by omega), byte (by omega)]
    next =>
      split
      next =>
        simp only [List.map_cons, List.map_nil]
        rw [byte (by omega), byte (by omega), byte (by omega)]
      next =>
        simp only [List.map_cons, List.map_nil]
        rw [byte (by omega), byte (by omega), byte (by omega), byte (by omega)]

theorem encodeChar_ascii {c : Char} (ascii : c.toNat < 128) : encodeChar c = [c.toNat] := by
  rw [encodeChar_eq, if_pos (by omega)]

theorem encodeChar_ne_nil (c : Char) : encodeChar c ≠ [] := by
  rw [encodeChar_eq]
  split_ifs <;> exact List.cons_ne_nil _ _

theorem encode_ne_nil {cs : List Char} (nonempty : cs ≠ []) : encode cs ≠ [] := by
  obtain ⟨c, more, rfl⟩ := List.exists_cons_of_ne_nil nonempty
  rw [encode_cons]
  exact List.append_ne_nil_of_left_ne_nil (encodeChar_ne_nil c) _

theorem le_of_mem_encodeChar {c : Char} (other : 128 ≤ c.toNat) {b : Nat}
    (member : b ∈ encodeChar c) : 128 ≤ b := by
  rw [encodeChar_eq, if_neg (by omega)] at member
  split at member
  next =>
    simp only [List.mem_cons, List.not_mem_nil, or_false] at member
    omega
  next =>
    split at member
    next =>
      simp only [List.mem_cons, List.not_mem_nil, or_false] at member
      omega
    next =>
      simp only [List.mem_cons, List.not_mem_nil, or_false] at member
      omega

theorem exists_of_mem_encode {cs : List Char} {b : Nat} (ascii : b < 128) (member : b ∈ encode cs) :
    ∃ c ∈ cs, c.toNat = b := by
  obtain ⟨c, inside, isByte⟩ := List.mem_flatMap.1 member
  rcases Nat.lt_or_ge c.toNat 128 with small | large
  · rw [encodeChar_ascii small, List.mem_singleton] at isByte
    exact ⟨c, inside, isByte.symm⟩
  · have above := le_of_mem_encodeChar large isByte
    omega

theorem not_mem_encode {cs : List Char} {c : Char} (ascii : c.toNat < 128) (absent : c ∉ cs) :
    c.toNat ∉ encode cs := by
  intro member
  obtain ⟨d, inside, same⟩ := exists_of_mem_encode ascii member
  exact absent (Char.toNat_inj.1 same ▸ inside)

theorem exists_of_encode_cons {b : Nat} {rest : List Nat} {cs : List Char} (ascii : b < 128)
    (split : encode cs = b :: rest) :
    ∃ c more, cs = c :: more ∧ c.toNat = b ∧ encode more = rest := by
  cases cs with
  | nil => cases split
  | cons c cs =>
    rcases Nat.lt_or_ge c.toNat 128 with small | large
    · rw [encode_cons, encodeChar_ascii small] at split
      obtain ⟨isFirst, isRest⟩ := List.cons.inj split
      exact ⟨c, cs, rfl, isFirst, isRest⟩
    · obtain ⟨lead, more, isLead⟩ := List.exists_cons_of_ne_nil (encodeChar_ne_nil c)
      have above := le_of_mem_encodeChar large (isLead ▸ List.mem_cons_self : lead ∈ encodeChar c)
      rw [encode_cons, isLead, List.cons_append] at split
      have same := (List.cons.inj split).1
      omega

theorem exists_of_encode_append {bytes rest : List Nat} {cs : List Char}
    (ascii : ∀ b ∈ bytes, b < 128) (split : encode cs = bytes ++ rest) :
    ∃ front behind, cs = front ++ behind ∧ encode front = bytes ∧ encode behind = rest := by
  induction bytes generalizing cs with
  | nil => exact ⟨[], cs, rfl, rfl, split⟩
  | cons b bytes ih =>
    obtain ⟨small, others⟩ := List.forall_mem_cons.1 ascii
    obtain ⟨c, more, rfl, isFirst, isRest⟩ := exists_of_encode_cons small split
    obtain ⟨front, behind, rfl, isFront, isBehind⟩ := ih others isRest
    refine ⟨c :: front, behind, rfl, ?_, isBehind⟩
    rw [encode_cons, encodeChar_ascii (isFirst ▸ small), isFront, isFirst]
    rfl

/-- The first byte of a text tells how many bytes its first character takes. -/
theorem dropSeparator_encodeChar (c : Char) (rest : List Nat) :
    Calendar.dropSeparator (encodeChar c ++ rest) = rest := by
  rw [encodeChar_eq]
  split
  next single =>
    have small : c.toNat < 128 := by omega
    simp [Calendar.dropSeparator, small]
  next =>
    split
    next =>
      have lead : ¬ c.toNat / 64 % 32 + 192 < 128 ∧
          (c.toNat / 64 % 32 + 192) / 16 ≠ 14 ∧ (c.toNat / 64 % 32 + 192) / 16 ≠ 15 := by omega
      simp [Calendar.dropSeparator, lead]
    next =>
      split
      next =>
        have lead : ¬ c.toNat / 4096 % 16 + 224 < 128 ∧
            (c.toNat / 4096 % 16 + 224) / 16 = 14 := by omega
        simp [Calendar.dropSeparator, lead]
      next =>
        have lead : ¬ c.toNat / 262144 % 8 + 240 < 128 ∧
            (c.toNat / 262144 % 8 + 240) / 16 = 15 := by omega
        simp [Calendar.dropSeparator, lead]

end LogSelect.Utf8

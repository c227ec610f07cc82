import Mathlib.Data.List.TakeWhile
import LogSelect.Text.Digits

/-!
Stretches of characters of one kind, and stretches of digits among them.
-/

namespace LogSelect

variable {p : Char → Bool} {cs rest : List Char}

/-- The longest stretch of a kind ends where a text of another kind begins. -/
theorem takeWhile_append (all : ∀ c ∈ cs, p c = true) (stop : ∀ c ∈ rest.head?, p c = false) :
    (cs ++ rest).takeWhile p = cs := by
  rw [List.takeWhile_append_of_pos all]
  cases rest with
  | nil => simp
  | cons c rest => simp [stop c rfl]

theorem takeWhile_cut (within : ((cs ++ rest).takeWhile p).length ≤ cs.length) :
    cs.takeWhile p = (cs ++ rest).takeWhile p := by
  induction cs with
  | nil => exact (List.length_eq_zero_iff.1 (Nat.le_zero.1 within)).symm
  | cons c cs ih =>
    by_cases holds : p c = true
    · simp only [List.cons_append, List.takeWhile_cons, holds, if_true,
        List.length_cons] at within ⊢
      rw [ih (Nat.le_of_succ_le_succ within)]
    · simp [holds]

theorem take_takeWhile (p : Char → Bool) (cs : List Char) :
    cs.take (cs.takeWhile p).length = cs.takeWhile p :=
  (List.prefix_iff_eq_take.1 (List.takeWhile_prefix p)).symm

theorem drop_takeWhile (p : Char → Bool) (cs : List Char) :
    cs.drop (cs.takeWhile p).length = cs.dropWhile p := by
  calc
    cs.drop (cs.takeWhile p).length
        = (cs.takeWhile p ++ cs.dropWhile p).drop (cs.takeWhile p).length := by
          rw [List.takeWhile_append_dropWhile]
    _ = cs.dropWhile p := List.drop_left

theorem dropWhile_eq_self (stop : ∀ c ∈ cs.head?, p c = false) : cs.dropWhile p = cs := by
  cases cs with
  | nil => rfl
  | cons c cs => rw [List.dropWhile_cons, stop c rfl]; rfl

/-! ## Digits -/

theorem asciiDigits_append (all : ∀ c ∈ cs, isAsciiDigit c = true)
    (stop : ∀ c ∈ rest.head?, isAsciiDigit c = false) : asciiDigits (cs ++ rest) = cs :=
  takeWhile_append all stop

@[simp]
theorem length_digitValues (cs : List Char) : (digitValues cs).length = cs.length :=
  List.length_map _

theorem digitValues_append (cs rest : List Char) :
    digitValues (cs ++ rest) = digitValues cs ++ digitValues rest :=
  List.map_append

end LogSelect

import Mathlib.Data.Nat.Cast.Order.Field
import LogSelect.Number.Arithmetic
import LogSelect.Number.Shortest
import LogSelect.Proofs.Number.Nearest
import LogSelect.Proofs.Number.Text

/-!
The shortest decimal of a floating-point number denotes the number.

Among the decimals that are tried one is found, as the nearest one of seventeen places is rounded to
the number.  Zeros at the end of a coefficient can be traded for its exponent, so the layout of the
digits does not matter.
-/

namespace LogSelect.Binary64

variable {negative : Bool} {c m num den : ℕ} {e q : ℤ}

/-! ## Sizes -/

theorem pow_le_of_length_decimalDigits (nonzero : c ≠ 0) :
    10 ^ ((decimalDigits c).length - 1) ≤ c := by
  by_contra less
  by_cases single : (decimalDigits c).length - 1 = 0
  · rw [single, pow_zero] at less
    omega
  · have short : (decimalDigits c).length ≤ (decimalDigits c).length - 1 :=
      (Nat.length_toDigits_le_iff (by decide) (by omega)).2 (not_le.1 less)
    omega

theorem length_decimalDigits_pos (c : ℕ) : 0 < (decimalDigits c).length :=
  List.length_pos_iff.2 Nat.toDigits_ne_nil

theorem lt_pow_length_decimalDigits (c : ℕ) : c < 10 ^ (decimalDigits c).length :=
  (Nat.length_toDigits_le_iff (by decide) (length_decimalDigits_pos c)).1 le_rfl

theorem le_mul_leadingZeros {limit : ℕ} (enough : den ≤ num * 10 ^ limit) :
    den ≤ num * 10 ^ leadingZeros num den limit := by
  induction limit generalizing num with
  | zero => exact enough
  | succ limit ih =>
    unfold leadingZeros
    split
    next reached => simpa using reached
    next =>
      rw [pow_succ', ← mul_assoc] at enough ⊢
      exact ih enough

theorem decimalExponent_le (positive : 0 < den) (enough : den ≤ num * 10 ^ 400) :
    (10 : ℚ) ^ decimalExponent num den ≤ num / den := by
  have denPositive : (0 : ℚ) < den := by exact_mod_cast positive
  unfold decimalExponent
  split
  next large =>
    have nonzero : num / den ≠ 0 := (Nat.div_pos large positive).ne'
    have lead := pow_le_of_length_decimalDigits nonzero
    have length := length_decimalDigits_pos (num / den)
    calc (10 : ℚ) ^ (((decimalDigits (num / den)).length : ℤ) - 1)
        = (10 ^ ((decimalDigits (num / den)).length - 1) : ℕ) := by
          rw [show ((decimalDigits (num / den)).length : ℤ) - 1 =
            ((decimalDigits (num / den)).length - 1 : ℕ) by omega]
          push_cast
          exact zpow_natCast 10 _
      _ ≤ (num / den : ℕ) := by exact_mod_cast lead
      _ ≤ num / den := Nat.cast_div_le
  next small =>
    have reached := le_mul_leadingZeros enough
    rw [zpow_neg, zpow_natCast, le_div_iff₀ denPositive, inv_mul_le_iff₀ (by positivity), mul_comm]
    exact_mod_cast reached

/-! ## Decimals -/

theorem ofRatio_true (num den : ℕ) : ofRatio true num den = (ofRatio false num den).negate := by
  have packed : ∀ m q, pack true m q = (pack false m q).negate := by
    intro m q
    unfold pack
    split <;> rfl
  unfold ofRatio
  dsimp only
  split
  · rfl
  · split <;> exact packed _ _

theorem ofDecimal_true (c : ℕ) (e : ℤ) : ofDecimal true c e = (ofDecimal false c e).negate := by
  unfold ofDecimal
  dsimp only
  split
  · rfl
  · split
    · rfl
    · split
      · rfl
      · exact ofRatio_true _ _

theorem ofDecimal_of_false {canonical : IsCanonical m q}
    (isNumber : ofDecimal false c e = .finite false m q canonical) (negative : Bool) :
    ofDecimal negative c e = .finite negative m q canonical := by
  cases negative with
  | false => exact isNumber
  | true =>
    rw [ofDecimal_true, isNumber]
    rfl

theorem decimal_bounds (nonzero : c ≠ 0) (e : ℤ) :
    (10 : ℚ) ^ ((decimalDigits c).length + e - 1) ≤ c * 10 ^ e ∧
      (c : ℚ) * 10 ^ e < 10 ^ ((decimalDigits c).length + e) := by
  have length := length_decimalDigits_pos c
  have lead : ((10 ^ ((decimalDigits c).length - 1) : ℕ) : ℚ) ≤ c := by
    exact_mod_cast pow_le_of_length_decimalDigits nonzero
  have bound : (c : ℚ) < (10 ^ (decimalDigits c).length : ℕ) := by
    exact_mod_cast lt_pow_length_decimalDigits c
  push_cast at lead bound
  rw [← zpow_natCast] at lead bound
  constructor
  · rw [show (decimalDigits c).length + e - 1 = ((decimalDigits c).length - 1 : ℕ) + e by omega,
      zpow_add₀ (by norm_num)]
    gcongr
  · rw [zpow_add₀ (by norm_num)]
    gcongr

theorem two_pow_le_ten_pow :
    2 ^ 1025 ≤ 10 ^ 310 ∧ 2 ^ 1075 ≤ 10 ^ 330 ∧ 2 ^ 1074 ≤ 10 ^ 400 := by
  decide +kernel

/-- The bounds for which no power is computed do not cut off numbers. -/
theorem ofDecimal_near (canonical : IsCanonical m q) (mPositive : 0 < m)
    (near : |(c : ℚ) * 10 ^ e / 2 ^ q - m| < m / 2 ^ 54) :
    ofDecimal negative c e = .finite negative m q canonical := by
  obtain ⟨few, least, most, -⟩ := id canonical
  have mLow : (1 : ℚ) ≤ m := by exact_mod_cast mPositive
  have mHigh : (m : ℚ) ≤ 2 ^ 53 := by exact_mod_cast few.le
  obtain ⟨below, above⟩ := abs_lt.1 near
  have step : (0 : ℚ) < 2 ^ q := by positivity
  have low : (2 : ℚ) ^ (-1075 : ℤ) < c * 10 ^ e := by
    calc (2 : ℚ) ^ (-1075 : ℤ) ≤ 2 ^ (q - 1) := zpow_le_zpow_right₀ one_le_two (by omega)
      _ = 1 / 2 * 2 ^ q := by rw [zpow_sub_one₀ two_ne_zero]; ring
      _ < c * 10 ^ e := by rw [← lt_div_iff₀ step]; linarith
  have high : (c : ℚ) * 10 ^ e < 2 ^ (1025 : ℤ) := by
    calc (c : ℚ) * 10 ^ e < 2 ^ 54 * 2 ^ q := by rw [← div_lt_iff₀ step]; linarith
      _ = 2 ^ (54 + q) := by rw [zpow_add₀ two_ne_zero]; norm_cast
      _ ≤ 2 ^ (1025 : ℤ) := zpow_le_zpow_right₀ one_le_two (by omega)
  have nonzero : c ≠ 0 := by
    rintro rfl
    rw [Nat.cast_zero, zero_mul] at low
    exact absurd low (not_lt.2 (by positivity))
  obtain ⟨lead, bound⟩ := decimal_bounds nonzero e
  have notAbove : ¬ 310 < ((decimalDigits c).length : ℤ) + e := by
    intro outside
    have power : (2 : ℚ) ^ (1025 : ℤ) ≤ 10 ^ (310 : ℤ) := by
      exact_mod_cast two_pow_le_ten_pow.1
    have place : (10 : ℚ) ^ (310 : ℤ) ≤ 10 ^ ((decimalDigits c).length + e - 1) :=
      zpow_le_zpow_right₀ (by norm_num) (by omega)
    exact (high.trans_le (power.trans (place.trans lead))).false
  have notBelow : ¬ ((decimalDigits c).length : ℤ) + e < -330 := by
    intro outside
    have power : (10 : ℚ) ^ (-330 : ℤ) ≤ 2 ^ (-1075 : ℤ) := by
      rw [zpow_neg, zpow_neg]
      gcongr
      exact_mod_cast two_pow_le_ten_pow.2.1
    have place : (10 : ℚ) ^ ((decimalDigits c).length + e) ≤ 10 ^ (-330 : ℤ) :=
      zpow_le_zpow_right₀ (by norm_num) outside.le
    exact (low.trans (bound.trans_le (place.trans power))).false
  rw [ofDecimal, if_neg nonzero]
  dsimp only
  rw [if_neg notAbove, if_neg notBelow]
  apply ofRatio_near canonical mPositive (rescale_positive 10 c _ one_pos (by decide))
  rw [rescale_ratio]
  simpa using near

/-! ## Shortest decimals -/

/-- Seventeen places tell every number from all others. -/
theorem seventeen_places_near {top : ℤ} {n : ℕ} (mPositive : 0 < m)
    (leads : (10 : ℚ) ^ top ≤ m * 2 ^ q)
    (nearest : IsNearest (m * 2 ^ q / 10 ^ (top - 16)) n) :
    |(n : ℚ) * 10 ^ (top - 16) / 2 ^ q - m| < m / 2 ^ 54 := by
  have step : (0 : ℚ) < 2 ^ q := by positivity
  have grid : (0 : ℚ) < 10 ^ (top - 16) := by positivity
  have mLow : (1 : ℚ) ≤ m := by exact_mod_cast mPositive
  have distance : |(n : ℚ) * 10 ^ (top - 16) - m * 2 ^ q| ≤ 1 / 2 * 10 ^ (top - 16) := by
    have near := nearest.near
    rw [← mul_le_mul_iff_left₀ grid, ← abs_of_pos grid, ← abs_mul, abs_of_pos grid, sub_mul,
      div_mul_cancel₀ _ grid.ne', abs_sub_comm] at near
    exact near
  have fine : (10 : ℚ) ^ (top - 16) ≤ m * 2 ^ q / 10 ^ 16 := by
    rw [zpow_sub₀ (by norm_num), zpow_ofNat]
    exact div_le_div_of_nonneg_right leads (by positivity)
  calc |(n : ℚ) * 10 ^ (top - 16) / 2 ^ q - m|
      = |(n : ℚ) * 10 ^ (top - 16) - m * 2 ^ q| / 2 ^ q := by
        rw [← abs_of_pos step, ← abs_div, abs_of_pos step, sub_div,
          mul_div_cancel_right₀ _ step.ne']
    _ ≤ 1 / 2 * (m * 2 ^ q / 10 ^ 16) / 2 ^ q := by gcongr; linarith
    _ = m / (2 * 10 ^ 16) := by field_simp
    _ < m / 2 ^ 54 := by gcongr; norm_num

theorem enough_of_number (least : -1074 ≤ q) (mPositive : 0 < m) (positive : 0 < den)
    (number : (num : ℚ) / den = m * 2 ^ q) : den ≤ num * 10 ^ 400 := by
  have denPositive : (0 : ℚ) < den := by exact_mod_cast positive
  have mLow : (1 : ℚ) ≤ m := by exact_mod_cast mPositive
  have least : (2 : ℚ) ^ (-1074 : ℤ) ≤ 2 ^ q := zpow_le_zpow_right₀ one_le_two least
  have power : (2 : ℚ) ^ (1074 : ℤ) ≤ 10 ^ 400 := by
    exact_mod_cast two_pow_le_ten_pow.2.2
  have bound : (den : ℚ) ≤ num * 10 ^ 400 := by
    rw [div_eq_iff denPositive.ne'] at number
    calc (den : ℚ) = 1 * 2 ^ (-1074 : ℤ) * den * 2 ^ (1074 : ℤ) := by
          rw [zpow_neg]
          field_simp
      _ ≤ m * 2 ^ q * den * 10 ^ 400 := by gcongr
      _ = num * 10 ^ 400 := by rw [number]
  exact_mod_cast bound

/-- The digits of a positive number read back as the number. -/
theorem ofDecimal_shortest (canonical : IsCanonical m q) (mPositive : 0 < m) (negative : Bool) :
    ofDecimal negative (shortest m q).coefficient (shortest m q).exponent =
      .finite negative m q canonical := by
  apply ofDecimal_of_false
  have number := rescale_number m q
  have positive := rescale_positive 2 m (-q) one_pos two_pos
  unfold shortest
  dsimp only
  rw [pack_eq false canonical]
  generalize (rescale 2 m 1 (-q)).1 = num at *
  generalize (rescale 2 m 1 (-q)).2 = den at *
  generalize isTop : decimalExponent num den = top
  have leads : (10 : ℚ) ^ top ≤ m * 2 ^ q := by
    rw [← number, ← isTop]
    exact decimalExponent_le positive (enough_of_number canonical.2.1 mPositive positive number)
  have found : ∃ d ∈ ((List.range 17).map fun (places : Nat) => top - places).flatMap
      (neighbours num den), d.readsBack (.finite false m q canonical) = true := by
    have nearest := roundHalfEven_isNearest (rescale 10 num den (top - 16)).1
      (rescale_positive 10 num (top - 16) positive (by decide))
    rw [rescale_ratio, number, Nat.cast_ofNat] at nearest
    refine ⟨_, List.mem_flatMap.2 ⟨top - 16, List.mem_map.2 ⟨16, by decide, rfl⟩,
      List.mem_cons_self⟩, ?_⟩
    rw [Decimal.readsBack, beq_iff_eq]
    exact ofDecimal_near canonical mPositive
      (seventeen_places_near mPositive leads nearest)
  obtain ⟨d, isFirst⟩ := Option.isSome_iff_exists.1 (List.find?_isSome.2 found)
  have reads : d.readsBack (.finite false m q canonical) = true := List.find?_some isFirst
  rw [isFirst]
  exact beq_iff_eq.1 reads

/-! ## Layouts -/

theorem decimalDigits_mul_ten (positive : 0 < c) :
    decimalDigits (c * 10) = decimalDigits c ++ ['0'] := by
  have digits := Nat.toDigits_append_toDigits (b := 10) (n := c) (d := 0) (by decide) positive
    (by decide)
  rw [Nat.add_zero, Nat.mul_comm] at digits
  exact digits.symm

theorem ofDecimal_mul_ten (negative : Bool) (c : ℕ) (e : ℤ) :
    ofDecimal negative (c * 10) e = ofDecimal negative c (e + 1) := by
  by_cases zero : c = 0
  · simp [ofDecimal, zero]
  · have size : ((decimalDigits (c * 10)).length : ℤ) + e =
        (decimalDigits c).length + (e + 1) := by
      rw [decimalDigits_mul_ten (Nat.pos_of_ne_zero zero), List.length_append,
        List.length_singleton]
      omega
    have nonzero : c * 10 ≠ 0 := by omega
    have same : ofRatio negative (rescale 10 (c * 10) 1 (-e)).1 (rescale 10 (c * 10) 1 (-e)).2 =
        ofRatio negative (rescale 10 c 1 (-(e + 1))).1 (rescale 10 c 1 (-(e + 1))).2 := by
      apply ofRatio_congr (rescale_positive 10 _ _ one_pos (by decide))
        (rescale_positive 10 _ _ one_pos (by decide))
      rw [rescale_ratio, rescale_ratio, neg_add, ← sub_eq_add_neg, zpow_sub_one₀ (by norm_num)]
      push_cast
      field_simp
    simp only [ofDecimal, zero, nonzero, if_false, size, same]

theorem ofDecimal_mul_pow (negative : Bool) (c k : ℕ) (e : ℤ) :
    ofDecimal negative (c * 10 ^ k) e = ofDecimal negative c (e + k) := by
  induction k generalizing e with
  | zero => simp
  | succ k ih =>
    rw [pow_succ, ← mul_assoc, ofDecimal_mul_ten, ih]
    congr 1
    push_cast
    ring

variable {digits : List Char} {top : ℤ}

theorem ofDecimal_places (d : Decimal) (negative : Bool) :
    ofDecimal negative (Nat.ofDigitChars 10 d.places.1 0) (d.places.2 - d.places.1.length + 1) =
      ofDecimal negative d.coefficient d.exponent := by
  obtain ⟨zeros, split⟩ := exists_decimalDigits_eq d
  have value : Nat.ofDigitChars 10 d.places.1 0 * 10 ^ zeros = d.coefficient := by
    rw [← ofDigitChars_zeros, ← Nat.ofDigitChars_append, ← split]
    exact Nat.ofDigitChars_ten_toDigits
  have exponent : d.places.2 = d.exponent + (decimalDigits d.coefficient).length - 1 := rfl
  rw [← value, ofDecimal_mul_pow]
  congr 1
  rw [exponent, split, List.length_append, List.length_replicate]
  push_cast
  ring

theorem realValue_digits (negative : Bool) (whole fraction : List Char) :
    Numeral.realValue ⟨negative, digitValues whole, some (digitValues fraction), none⟩ =
      ofDecimal negative (Nat.ofDigitChars 10 (whole ++ fraction) 0) (-(fraction.length : ℤ)) := by
  simp only [Numeral.realValue, Option.getD_some, ← digitValues_append, ofDigits_digitValues,
    length_digitValues, zero_sub]

/-- In positional notation the digits keep their places: zeros are added on one side only. -/
theorem exists_positional (nonempty : digits ≠ []) (top : ℤ) :
    ∃ whole fraction, positional digits top = whole ++ '.' :: fraction ∧ fraction ≠ [] ∧
      (whole = ['0'] ∨ whole ≠ [] ∧ whole.head? = digits.head?) ∧
      (∀ c ∈ whole ++ fraction, c = '0' ∨ c ∈ digits) ∧
      ∀ negative, ofDecimal negative (Nat.ofDigitChars 10 (whole ++ fraction) 0)
          (-(fraction.length : ℤ)) =
        ofDecimal negative (Nat.ofDigitChars 10 digits 0) (top - digits.length + 1) := by
  unfold positional
  split
  next under =>
    refine ⟨['0'], _, rfl, by simp [nonempty], .inl rfl, ?_, fun negative => ?_⟩
    · intro c member
      simp only [List.singleton_append, List.mem_cons, List.mem_append, List.mem_replicate]
        at member
      tauto
    · have value : Nat.ofDigitChars 10
          (['0'] ++ (List.replicate (-top - 1).toNat '0' ++ digits)) 0 =
          Nat.ofDigitChars 10 digits 0 := by
        rw [Nat.ofDigitChars_append, Nat.ofDigitChars_append, ofDigitChars_zeros,
          show ['0'] = List.replicate 1 '0' from rfl, ofDigitChars_zeros]
        simp only [Nat.zero_mul]
      rw [value]
      congr 1
      rw [List.length_append, List.length_replicate]
      push_cast
      omega
  next behind =>
    dsimp only
    split
    next short =>
      refine ⟨digits ++ List.replicate (top.toNat + 1 - digits.length) '0', ['0'], by simp,
        by simp, .inr ⟨by simp [nonempty], ?_⟩, ?_, fun negative => ?_⟩
      · rw [List.head?_append_of_ne_nil _ nonempty]
      · intro c member
        simp only [List.mem_append, List.mem_replicate, List.mem_singleton] at member
        tauto
      · rw [Nat.ofDigitChars_append, Nat.ofDigitChars_append, ofDigitChars_zeros,
          show ['0'] = List.replicate 1 '0' from rfl, ofDigitChars_zeros, ofDecimal_mul_pow,
          ofDecimal_mul_pow]
        congr 1
        rw [List.length_replicate]
        push_cast
        omega
    next long =>
      have split := List.take_append_drop (top.toNat + 1) digits
      refine ⟨digits.take (top.toNat + 1), digits.drop (top.toNat + 1), rfl, ?_, .inr ⟨?_, ?_⟩, ?_,
        fun negative => ?_⟩
      · rw [Ne, List.drop_eq_nil_iff]
        exact long
      · simp [nonempty]
      · rw [List.head?_take, if_neg (by omega)]
      · rw [split]
        exact fun c member => .inr member
      · rw [split]
        congr 1
        rw [List.length_drop]
        omega

end LogSelect.Binary64

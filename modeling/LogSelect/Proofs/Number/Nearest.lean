import Mathlib.Algebra.Order.Field.Power
import Mathlib.Algebra.Order.Field.Rat
import Mathlib.Data.Rat.Cast.Order
import Mathlib.Tactic.FieldSimp
import Mathlib.Tactic.Linarith
import Mathlib.Tactic.NormNum
import Mathlib.Tactic.Positivity
import Mathlib.Tactic.Ring
import LogSelect.Number.Binary64

/-!
Rounding to floating-point numbers, in terms of the exact fraction that is rounded.

A fraction has one scale, the exponent at which it has 53 bits before the point, and on that scale
one nearest significand, even in a tie.  So the rounded number depends on the fraction alone and not
on the numerator and denominator that stand for it, and what lies close enough to a number is
rounded to it.
-/

namespace LogSelect.Binary64

variable {r r' : ℚ} {num den num' den' m n n' : ℕ} {e e' q : ℤ} {negative : Bool}

/-! ## Whole numbers nearest to a fraction -/

/-- A whole number nearest to a fraction; it is even if its neighbour is as near. -/
structure IsNearest (r : ℚ) (n : ℕ) : Prop where
  near : |r - n| ≤ 1 / 2
  even_of_tie : |r - n| = 1 / 2 → n % 2 = 0

theorem IsNearest.of_lt (near : |r - n| < 1 / 2) : IsNearest r n :=
  ⟨near.le, fun tie => absurd tie near.ne⟩

theorem IsNearest.mono (nearest : IsNearest r n) (nearest' : IsNearest r' n') (le : r ≤ r') :
    n ≤ n' := by
  by_contra less
  have next : (n' : ℚ) + 1 ≤ n := by exact_mod_cast not_le.1 less
  have above := (abs_le.1 nearest'.near).2
  have below := (abs_le.1 nearest.near).1
  have even := nearest.even_of_tie (by rw [show r - n = -(1 / 2) by linarith]; norm_num)
  have even' := nearest'.even_of_tie (by rw [show r' - n' = 1 / 2 by linarith]; norm_num)
  have neighbour : (n : ℚ) = (n' + 1 : ℕ) := by
    push_cast
    linarith
  have neighbour : n = n' + 1 := by exact_mod_cast neighbour
  omega

theorem IsNearest.unique (nearest : IsNearest r n) (nearest' : IsNearest r n') : n = n' :=
  le_antisymm (nearest.mono nearest' le_rfl) (nearest'.mono nearest le_rfl)

theorem isNearest_self (n : ℕ) : IsNearest n n :=
  .of_lt (by norm_num)

theorem roundHalfEven_isNearest (num : ℕ) (positive : 0 < den) :
    IsNearest (num / den) (roundHalfEven num den) := by
  have denPositive : (0 : ℚ) < den := by exact_mod_cast positive
  have split : (num : ℚ) / den = (num / den : ℕ) + ((num % den : ℕ) : ℚ) / den := by
    rw [← sub_eq_iff_eq_add', eq_div_iff denPositive.ne', sub_mul,
      div_mul_cancel₀ _ denPositive.ne', sub_eq_iff_eq_add']
    exact_mod_cast (by rw [mul_comm]; exact (Nat.div_add_mod num den).symm)
  have bound := Nat.mod_lt num positive
  rw [split]
  unfold roundHalfEven
  dsimp only
  generalize num / den = low at *
  generalize num % den = rest at *
  have restNonneg : (0 : ℚ) ≤ (rest : ℚ) / den := by positivity
  split
  next down =>
    have half : (rest : ℚ) / den ≤ 1 / 2 := by
      rw [div_le_div_iff₀ denPositive two_pos]
      exact_mod_cast (by omega : rest * 2 ≤ 1 * den)
    refine ⟨?_, fun tie => ?_⟩
    · rwa [add_sub_cancel_left, abs_of_nonneg restNonneg]
    · rw [add_sub_cancel_left, abs_of_nonneg restNonneg, div_eq_div_iff denPositive.ne' two_ne_zero]
        at tie
      have tie : rest * 2 = 1 * den := by exact_mod_cast tie
      omega
  next up =>
    have half : 1 / 2 ≤ (rest : ℚ) / den := by
      rw [div_le_div_iff₀ two_pos denPositive]
      exact_mod_cast (by omega : 1 * den ≤ rest * 2)
    have less : (rest : ℚ) / den < 1 := by
      rw [div_lt_one denPositive]
      exact_mod_cast bound
    have distance : |(low : ℚ) + rest / den - (low + 1 : ℕ)| = 1 - rest / den := by
      push_cast
      rw [abs_of_nonpos (by linarith)]
      ring
    refine ⟨?_, fun tie => ?_⟩
    · rw [distance]
      linarith
    · have middle : (rest : ℚ) / den = 1 / 2 := by linarith
      rw [div_eq_div_iff denPositive.ne' two_ne_zero] at middle
      have middle : rest * 2 = 1 * den := by exact_mod_cast middle
      omega

/-! ## Scales -/

theorem rescale_positive (base num : ℕ) (e : ℤ) (positive : 0 < den) (basePositive : 0 < base) :
    0 < (rescale base num den e).2 := by
  unfold rescale
  split
  · exact Nat.mul_pos positive (Nat.pow_pos basePositive)
  · exact positive

theorem rescale_ratio (base num den : ℕ) (e : ℤ) :
    ((rescale base num den e).1 : ℚ) / (rescale base num den e).2 = num / den / base ^ e := by
  unfold rescale
  split
  next up =>
    obtain ⟨k, rfl⟩ := Int.eq_ofNat_of_zero_le up
    simp [div_div]
  next down =>
    obtain ⟨k, rfl⟩ : ∃ k : ℕ, e = -k := ⟨(-e).toNat, by omega⟩
    simp [div_mul_eq_mul_div]

theorem rescale_number (m : ℕ) (q : ℤ) :
    ((rescale 2 m 1 (-q)).1 : ℚ) / (rescale 2 m 1 (-q)).2 = m * 2 ^ q := by
  rw [rescale_ratio]
  simp

/-- The exponent of the grid on which a fraction is rounded: there it has 53 bits before the point,
or fewer at the least exponent. -/
structure IsScale (r : ℚ) (e : ℤ) : Prop where
  least : -1074 ≤ e
  fits : r < 2 ^ (e + 53)
  full : e = -1074 ∨ 2 ^ (e + 52) ≤ r

theorem IsScale.mono (scale : IsScale r e) (scale' : IsScale r' e') (le : r ≤ r') : e ≤ e' := by
  by_contra less
  rcases scale.full with least | full
  · have := scale'.least
    omega
  · have below : (2 : ℚ) ^ (e' + 53) ≤ 2 ^ (e + 52) := zpow_le_zpow_right₀ one_le_two (by omega)
    exact absurd (scale'.fits.trans_le (below.trans (full.trans le))) (lt_irrefl r')

theorem IsScale.unique (scale : IsScale r e) (scale' : IsScale r e') : e = e' :=
  le_antisymm (scale.mono scale' le_rfl) (scale'.mono scale le_rfl)

theorem IsScale.clamp (fits : r < 2 ^ (e + 53)) (full : 2 ^ (e + 52) ≤ r) :
    IsScale r (if e < -1074 then -1074 else e) := by
  split
  next under =>
    exact ⟨le_rfl, fits.trans_le (zpow_le_zpow_right₀ one_le_two (by omega)), .inl rfl⟩
  next above => exact ⟨not_lt.1 above, fits, .inr full⟩

theorem log2_bounds (nonzero : num ≠ 0) (positive : 0 < den) :
    (2 : ℚ) ^ ((Nat.log2 num : ℤ) - Nat.log2 den - 1) ≤ num / den ∧
      (num : ℚ) / den < 2 ^ ((Nat.log2 num : ℤ) - Nat.log2 den + 1) := by
  have denPositive : (0 : ℚ) < den := by exact_mod_cast positive
  have numLow : (2 : ℚ) ^ (Nat.log2 num : ℤ) ≤ num := by
    exact_mod_cast Nat.log2_self_le nonzero
  have numHigh : (num : ℚ) < 2 ^ (Nat.log2 num + 1 : ℤ) := by
    exact_mod_cast Nat.lt_log2_self (n := num)
  have denLow : (2 : ℚ) ^ (Nat.log2 den : ℤ) ≤ den := by
    exact_mod_cast Nat.log2_self_le positive.ne'
  have denHigh : (den : ℚ) < 2 ^ (Nat.log2 den + 1 : ℤ) := by
    exact_mod_cast Nat.lt_log2_self (n := den)
  generalize (Nat.log2 num : ℤ) = numBits at *
  generalize (Nat.log2 den : ℤ) = denBits at *
  rw [le_div_iff₀ denPositive, div_lt_iff₀ denPositive]
  constructor
  · calc (2 : ℚ) ^ (numBits - denBits - 1) * den
        ≤ 2 ^ (numBits - denBits - 1) * 2 ^ (denBits + 1) := by gcongr
      _ = 2 ^ numBits := by
          rw [← zpow_add₀ two_ne_zero]
          congr 1
          omega
      _ ≤ num := numLow
  · calc (num : ℚ) < 2 ^ (numBits + 1) := numHigh
      _ = 2 ^ (numBits - denBits + 1) * 2 ^ denBits := by
          rw [← zpow_add₀ two_ne_zero]
          congr 1
          omega
      _ ≤ 2 ^ (numBits - denBits + 1) * den := by gcongr

theorem exponentFor_isScale (nonzero : num ≠ 0) (positive : 0 < den) :
    IsScale (num / den) (exponentFor num den) := by
  obtain ⟨low, high⟩ := log2_bounds nonzero positive
  unfold exponentFor
  dsimp only
  generalize isGuess : (Nat.log2 num : ℤ) - Nat.log2 den - 52 = guess
  rw [show (Nat.log2 num : ℤ) - Nat.log2 den - 1 = guess - 1 + 52 by omega] at low
  rw [show (Nat.log2 num : ℤ) - Nat.log2 den + 1 = guess + 53 by omega] at high
  have whole : (rescale 2 num den guess).1 / (rescale 2 num den guess).2 < leadingBit ↔
      (num : ℚ) / den < 2 ^ (guess + 52) := by
    have scaledPositive := rescale_positive 2 num guess positive two_pos
    have ratio := rescale_ratio 2 num den guess
    rw [Nat.div_lt_iff_lt_mul scaledPositive, zpow_add₀ two_ne_zero, ← div_lt_iff₀' (by positivity)]
    rw [Nat.cast_ofNat] at ratio
    rw [← ratio, div_lt_iff₀ (by exact_mod_cast scaledPositive)]
    norm_cast
  apply IsScale.clamp
  · split
    next under => exact (whole.1 under).trans_eq (by congr 1; omega)
    next => exact high
  · split
    next => exact low
    next above => exact not_lt.1 (mt whole.2 above)

/-! ## Rounding -/

/-- The number nearest to a fraction is known by the scale of the fraction and its nearest
significand there. -/
theorem ofRatio_eq (nonzero : num ≠ 0) (positive : 0 < den) (scale : IsScale (num / den) e)
    (nearest : IsNearest (num / den / 2 ^ e) n) :
    ofRatio negative num den =
      if n = 2 * leadingBit then pack negative leadingBit (e + 1) else pack negative n e := by
  obtain rfl := scale.unique (exponentFor_isScale nonzero positive)
  have ratio := rescale_ratio 2 num den (exponentFor num den)
  have rounded := roundHalfEven_isNearest (rescale 2 num den (exponentFor num den)).1
    (rescale_positive 2 num (exponentFor num den) positive two_pos)
  rw [ratio, Nat.cast_ofNat] at rounded
  rw [nearest.unique rounded, ofRatio, if_neg nonzero]

theorem ofRatio_congr (positive : 0 < den) (positive' : 0 < den')
    (same : (num : ℚ) / den = num' / den') :
    ofRatio negative num den = ofRatio negative num' den' := by
  have denNonzero : (den : ℚ) ≠ 0 := by exact_mod_cast positive.ne'
  have denNonzero' : (den' : ℚ) ≠ 0 := by exact_mod_cast positive'.ne'
  by_cases zero : num = 0
  · have zero' : num' = 0 := by
      rw [zero, Nat.cast_zero, zero_div, eq_comm, div_eq_zero_iff] at same
      exact_mod_cast same.resolve_right denNonzero'
    simp [ofRatio, zero, zero']
  · have nonzero' : num' ≠ 0 := by
      rintro rfl
      rw [Nat.cast_zero, zero_div, div_eq_zero_iff] at same
      exact zero (by exact_mod_cast same.resolve_right denNonzero)
    have scale := exponentFor_isScale nonzero' positive'
    have ratio := rescale_ratio 2 num' den' (exponentFor num' den')
    have nearest := roundHalfEven_isNearest (rescale 2 num' den' (exponentFor num' den')).1
      (rescale_positive 2 num' (exponentFor num' den') positive' two_pos)
    rw [ratio, Nat.cast_ofNat] at nearest
    rw [ofRatio_eq nonzero' positive' scale nearest,
      ofRatio_eq zero positive (same ▸ scale) (same ▸ nearest)]

theorem pack_eq (negative : Bool) (canonical : IsCanonical m q) :
    pack negative m q = .finite negative m q canonical :=
  dif_pos canonical

/-- What differs from a positive number by less than its part in `2 ^ 54` is rounded to it. -/
theorem ofRatio_near (canonical : IsCanonical m q) (mPositive : 0 < m) (positive : 0 < den)
    (near : |(num : ℚ) / den / 2 ^ q - m| < m / 2 ^ 54) :
    ofRatio negative num den = .finite negative m q canonical := by
  obtain ⟨few, least, -, full⟩ := id canonical
  have bit : leadingBit = 2 ^ 52 := rfl
  have mLow : (1 : ℚ) ≤ m := by exact_mod_cast mPositive
  have mHigh : (m : ℚ) + 1 ≤ 2 ^ 53 := by exact_mod_cast (by omega : m + 1 ≤ 2 ^ 53)
  obtain ⟨below, above⟩ := abs_lt.1 near
  have ratio : (num : ℚ) / den = num / den / 2 ^ q * 2 ^ q :=
    (div_mul_cancel₀ _ (by positivity)).symm
  generalize (num : ℚ) / den / 2 ^ q = x at ratio near below above
  have high : x < 2 ^ 53 := by linarith
  have nonzero : num ≠ 0 := by
    rintro rfl
    rw [Nat.cast_zero, zero_div, eq_comm, mul_eq_zero_iff_right (by positivity)] at ratio
    linarith
  by_cases low : q = -1074 ∨ (2 : ℚ) ^ 52 ≤ x
  · have scale : IsScale (num / den) q := by
      refine ⟨least, ?_, low.imp_right fun low => ?_⟩
      · rw [ratio, zpow_add₀ two_ne_zero, mul_comm]
        gcongr
        exact_mod_cast high
      · rw [ratio, zpow_add₀ two_ne_zero, mul_comm]
        gcongr
        exact_mod_cast low
    have nearest : IsNearest (num / den / 2 ^ q) m := by
      rw [ratio, mul_div_cancel_right₀ _ (by positivity)]
      exact .of_lt (near.trans (by linarith))
    rw [ofRatio_eq nonzero positive scale nearest, if_neg (by omega), pack_eq]
  · obtain ⟨notLeast, low⟩ := not_or.1 low
    have isPower : m = 2 ^ 52 := by
      by_contra other
      have more : (2 : ℚ) ^ 52 + 1 ≤ m := by exact_mod_cast (by omega : 2 ^ 52 + 1 ≤ m)
      linarith
    subst isPower
    have scale : IsScale (num / den) (q - 1) := by
      refine ⟨by omega, ?_, .inr ?_⟩
      · rw [ratio, show q - 1 + 53 = 52 + q by omega, zpow_add₀ two_ne_zero]
        gcongr
        exact_mod_cast not_le.1 low
      · rw [ratio, show q - 1 + 52 = 51 + q by omega, zpow_add₀ two_ne_zero]
        gcongr
        push_cast at below
        norm_num at *
        linarith
    have nearest : IsNearest (num / den / 2 ^ (q - 1)) (2 * leadingBit) := by
      have double : (num : ℚ) / den / 2 ^ (q - 1) = 2 * x := by
        rw [ratio, zpow_sub_one₀ two_ne_zero]
        field_simp
      apply IsNearest.of_lt
      rw [double, bit, abs_lt]
      push_cast at *
      constructor <;> linarith
    rw [ofRatio_eq nonzero positive scale nearest, if_pos rfl, Int.sub_add_cancel]
    exact pack_eq negative canonical

/-! ## Order -/

def IsRounded (r x : ℚ) : Prop :=
  ∃ e n, IsScale r e ∧ IsNearest (r / 2 ^ e) n ∧ x = n * 2 ^ e

/-- A greater fraction is never rounded to less: on one scale its significand is not less, and on a
greater scale every significand has all its bits. -/
theorem IsRounded.mono {x x' : ℚ} (rounded : IsRounded r x) (rounded' : IsRounded r' x')
    (le : r ≤ r') : x ≤ x' := by
  obtain ⟨e, n, scale, nearest, rfl⟩ := rounded
  obtain ⟨e', n', scale', nearest', rfl⟩ := rounded'
  have step : (0 : ℚ) < 2 ^ e := by positivity
  have step' : (0 : ℚ) < 2 ^ e' := by positivity
  rcases (scale.mono scale' le).eq_or_lt with rfl | less
  · have order : n ≤ n' := nearest.mono nearest' (by gcongr)
    gcongr
  · have full : (2 : ℚ) ^ (e' + 52) ≤ r' := by
      refine scale'.full.resolve_left ?_
      have least := scale.least
      omega
    have few : n ≤ 2 ^ 53 := by
      refine nearest.mono (isNearest_self (2 ^ 53)) ?_
      rw [div_le_iff₀ step, Nat.cast_pow, Nat.cast_ofNat, ← zpow_ofNat, ← zpow_add₀ two_ne_zero,
        add_comm]
      exact scale.fits.le
    have many : 2 ^ 52 ≤ n' := by
      refine (isNearest_self (2 ^ 52)).mono nearest' ?_
      rw [le_div_iff₀ step', Nat.cast_pow, Nat.cast_ofNat, ← zpow_ofNat, ← zpow_add₀ two_ne_zero,
        add_comm]
      exact full
    calc (n : ℚ) * 2 ^ e ≤ 2 ^ 53 * 2 ^ e := by
          gcongr
          exact_mod_cast few
      _ = 2 ^ (e + 53) := by
          rw [zpow_add₀ two_ne_zero, mul_comm]
          rfl
      _ ≤ 2 ^ (e' + 52) := zpow_le_zpow_right₀ one_le_two (by omega)
      _ = 2 ^ 52 * 2 ^ e' := by
          rw [zpow_add₀ two_ne_zero, mul_comm]
          rfl
      _ ≤ n' * 2 ^ e' := by
          gcongr
          exact_mod_cast many

theorem isScale_of_isCanonical (canonical : IsCanonical m q) : IsScale (m * 2 ^ q) q := by
  obtain ⟨few, least, -, full⟩ := canonical
  have step : (0 : ℚ) < 2 ^ q := by positivity
  refine ⟨least, ?_, full.symm.imp_right fun full => ?_⟩
  · rw [zpow_add₀ two_ne_zero, mul_comm]
    gcongr
    exact_mod_cast few
  · rw [zpow_add₀ two_ne_zero, mul_comm]
    gcongr
    exact_mod_cast full

theorem isRounded_self (canonical : IsCanonical m q) : IsRounded (m * 2 ^ q) (m * 2 ^ q) := by
  refine ⟨q, m, isScale_of_isCanonical canonical, ?_, rfl⟩
  rw [mul_div_cancel_right₀ _ (by positivity)]
  exact isNearest_self m

theorem isCanonical_unique {m' : ℕ} {q' : ℤ} (canonical : IsCanonical m q)
    (canonical' : IsCanonical m' q') (same : (m : ℚ) * 2 ^ q = m' * 2 ^ q') : m = m' ∧ q = q' := by
  obtain rfl : q = q' :=
    (isScale_of_isCanonical canonical).unique (same ▸ isScale_of_isCanonical canonical')
  have step : (2 : ℚ) ^ q ≠ 0 := by positivity
  exact ⟨by exact_mod_cast mul_right_cancel₀ step same, rfl⟩

theorem eq_of_pack {canonical : IsCanonical m q} {significand : ℕ} {exponent : ℤ}
    (isNumber : pack negative significand exponent = .finite negative m q canonical) :
    significand = m ∧ exponent = q := by
  unfold pack at isNumber
  split at isNumber
  · cases isNumber
    exact ⟨rfl, rfl⟩
  · cases isNumber

theorem isRounded_ofRatio {canonical : IsCanonical m q} (nonzero : num ≠ 0) (positive : 0 < den)
    (isNumber : ofRatio negative num den = .finite negative m q canonical) :
    IsRounded (num / den) (m * 2 ^ q) := by
  have scale := exponentFor_isScale nonzero positive
  have nearest := roundHalfEven_isNearest (rescale 2 num den (exponentFor num den)).1
    (rescale_positive 2 num (exponentFor num den) positive two_pos)
  rw [rescale_ratio, Nat.cast_ofNat] at nearest
  refine ⟨_, _, scale, nearest, ?_⟩
  rw [ofRatio_eq nonzero positive scale nearest] at isNumber
  generalize exponentFor num den = e at *
  split at isNumber
  next full =>
    obtain ⟨rfl, rfl⟩ := eq_of_pack isNumber
    rw [full, zpow_add_one₀ two_ne_zero]
    push_cast
    ring
  next =>
    obtain ⟨rfl, rfl⟩ := eq_of_pack isNumber
    rfl

end LogSelect.Binary64

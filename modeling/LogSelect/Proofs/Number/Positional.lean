import LogSelect.Proofs.Number.ReadBack

/-!
Which floating-point numbers are written without an exponent.

The layout depends on the shortest decimal of a number.  Rounding keeps the order, and the numbers
nearest to the bounds of positional notation are written as these bounds; so a number and its
shortest decimal lie on the same side of each bound.
-/

namespace LogSelect.Binary64

variable {negative : Bool} {c m m' : ℕ} {e k q q' : ℤ}

theorem isRounded_ofDecimal {canonical : IsCanonical m q} (mPositive : 0 < m)
    (isNumber : ofDecimal negative c e = .finite negative m q canonical) :
    IsRounded (c * 10 ^ e) (m * 2 ^ q) := by
  have notZero : signedZero negative ≠ .finite negative m q canonical := by
    intro isZero
    cases isZero
    exact absurd mPositive (lt_irrefl 0)
  unfold ofDecimal at isNumber
  dsimp only at isNumber
  split at isNumber
  next => exact absurd isNumber notZero
  next =>
    split at isNumber
    next => cases isNumber
    next =>
      split at isNumber
      next => exact absurd isNumber notZero
      next =>
        have nonzero : (rescale 10 c 1 (-e)).1 ≠ 0 := by
          intro zero
          rw [ofRatio, if_pos zero] at isNumber
          exact notZero isNumber
        have rounded := isRounded_ofRatio nonzero
          (rescale_positive 10 c _ one_pos (by decide)) isNumber
        rw [rescale_ratio] at rounded
        simpa using rounded

def written (significand : ℕ) (exponent : ℤ) : ℚ :=
  (shortest significand exponent).coefficient * 10 ^ (shortest significand exponent).exponent

theorem isRounded_written (canonical : IsCanonical m q) (mPositive : 0 < m) :
    IsRounded (written m q) (m * 2 ^ q) :=
  isRounded_ofDecimal mPositive (ofDecimal_shortest canonical mPositive false)

theorem le_places_iff (mPositive : 0 < m) (q : ℤ) :
    k ≤ (shortest m q).places.2 ↔ (10 : ℚ) ^ k ≤ written m q := by
  obtain ⟨lead, bound⟩ := decimal_bounds (shortest_ne_zero mPositive.ne' q) (shortest m q).exponent
  have top : (shortest m q).places.2 =
      (decimalDigits (shortest m q).coefficient).length + (shortest m q).exponent - 1 := by
    rw [Decimal.places]
    omega
  rw [top]
  constructor
  · intro low
    exact (zpow_le_zpow_right₀ (by norm_num) low).trans lead
  · intro low
    have less := (zpow_lt_zpow_iff_right₀ (by norm_num : (1 : ℚ) < 10)).1 (low.trans_lt bound)
    omega

/-- A bound that is the shortest decimal of the number nearest to it, if this number is not
below. -/
theorem le_written_iff (isBound : IsCanonical m' q') (rounded : IsRounded (10 ^ k) (m' * 2 ^ q'))
    (above : (10 : ℚ) ^ k ≤ m' * 2 ^ q') (same : written m' q' = 10 ^ k)
    (canonical : IsCanonical m q) (mPositive : 0 < m) :
    (10 : ℚ) ^ k ≤ written m q ↔ (10 : ℚ) ^ k ≤ m * 2 ^ q := by
  have isWritten := isRounded_written canonical mPositive
  constructor
  · intro low
    exact above.trans (rounded.mono isWritten low)
  · intro low
    by_contra less
    have below := isWritten.mono rounded (not_le.1 less).le
    have notBelow := rounded.mono (isRounded_self canonical) low
    obtain ⟨rfl, rfl⟩ := isCanonical_unique canonical isBound (le_antisymm below notBelow)
    exact less same.ge

theorem shortest_bounds :
    shortest 5000000000000000 1 = ⟨1, 16⟩ ∧ shortest 7378697629483821 (-66) = ⟨1, -4⟩ := by
  decide +kernel

theorem le_written_sixteen (canonical : IsCanonical m q) (mPositive : 0 < m) :
    (10 : ℚ) ^ (16 : ℤ) ≤ written m q ↔ (10 : ℚ) ^ (16 : ℤ) ≤ m * 2 ^ q := by
  have isBound : IsCanonical 5000000000000000 1 := by decide
  have value : (10 : ℚ) ^ (16 : ℤ) = (5000000000000000 : ℕ) * 2 ^ (1 : ℤ) := by norm_num
  apply le_written_iff isBound (value ▸ isRounded_self isBound) value.le _ canonical mPositive
  rw [written, shortest_bounds.1]
  norm_num

theorem le_written_ten_thousandth (canonical : IsCanonical m q) (mPositive : 0 < m) :
    (10 : ℚ) ^ (-4 : ℤ) ≤ written m q ↔ (10 : ℚ) ^ (-4 : ℤ) ≤ m * 2 ^ q := by
  have isBound : IsCanonical 7378697629483821 (-66) := by decide
  have rounded : IsRounded (10 ^ (-4 : ℤ)) ((7378697629483821 : ℕ) * 2 ^ (-66 : ℤ)) := by
    refine ⟨-66, 7378697629483821, ⟨by decide, by norm_num, .inr (by norm_num)⟩, .of_lt ?_, rfl⟩
    norm_num [abs_lt]
  apply le_written_iff isBound rounded (by norm_num) _ canonical mPositive
  rw [written, shortest_bounds.2]
  norm_num

/-- Positional notation is for the numbers from a ten-thousandth up to ten to the sixteenth. -/
theorem positional_iff (canonical : IsCanonical m q) (mPositive : 0 < m) :
    -4 ≤ (shortest m q).places.2 ∧ (shortest m q).places.2 < 16 ↔
      1 / 10 ^ 4 ≤ (m : ℚ) * 2 ^ q ∧ (m : ℚ) * 2 ^ q < 10 ^ 16 := by
  have low : (1 : ℚ) / 10 ^ 4 = 10 ^ (-4 : ℤ) := by norm_num
  have high : (10 : ℚ) ^ 16 = 10 ^ (16 : ℤ) := by norm_num
  rw [low, high, ← not_le, ← not_le, le_places_iff mPositive, le_places_iff mPositive,
    le_written_sixteen canonical mPositive, le_written_ten_thousandth canonical mPositive]

end LogSelect.Binary64

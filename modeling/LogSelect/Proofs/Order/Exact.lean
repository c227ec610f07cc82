import Mathlib.Algebra.Order.Field.Rat
import Mathlib.Data.Rat.Cast.Order
import Mathlib.Order.Compare
import Mathlib.Order.WithBot
import Mathlib.Tactic.FieldSimp
import Mathlib.Tactic.Positivity
import LogSelect.Number.Numeral
import LogSelect.Proofs.Number.Nearest

/-!
Numbers by their exact values: rational numbers with an infinity on either side.

Comparison of numbers is comparison of these values.  Texts never read as what is not a number, so
all of them have a value.
-/

namespace LogSelect

abbrev ExtendedRat :=
  WithBot (WithTop ℚ)

/-! ## Magnitudes -/

namespace Magnitude

def value : Magnitude → ExtendedRat
  | .below => ⊥
  | .at num den => ((num / den : ℚ) : WithTop ℚ)
  | .above => (⊤ : WithTop ℚ)

/-- A fraction with positive denominator, or beyond all fractions. -/
def IsProper : Magnitude → Prop
  | .at _ den => 0 < den
  | _ => True

theorem fraction_lt {num num' : Int} {den den' : Nat} (positive : (0 : ℚ) < den)
    (positive' : (0 : ℚ) < den') (less : num * den' < num' * den) :
    (num / den : ℚ) < num' / den' := by
  rw [div_lt_div_iff₀ positive positive']
  exact_mod_cast less

/-- Cross multiplication compares values. -/
theorem compare_compares {x y : Magnitude} (properLeft : x.IsProper) (properRight : y.IsProper) :
    (x.compare y).Compares x.value y.value := by
  cases x with
  | below =>
    cases y with
    | below => rfl
    | «at» num den => exact WithBot.bot_lt_coe _
    | above => exact WithBot.bot_lt_coe _
  | «at» num den =>
    cases y with
    | below => exact WithBot.bot_lt_coe _
    | «at» num' den' =>
      have positive : (0 : ℚ) < den := Nat.cast_pos.2 properLeft
      have positive' : (0 : ℚ) < den' := Nat.cast_pos.2 properRight
      simp only [compare]
      split
      · rename_i less
        exact WithBot.coe_lt_coe.2 (WithTop.coe_lt_coe.2
          (fraction_lt positive positive' less))
      · split
        · rename_i _ same
          have fractions : (num / den : ℚ) = num' / den' := by
            rw [div_eq_div_iff positive.ne' positive'.ne']
            exact_mod_cast same
          exact congrArg (fun value : ℚ => ((value : WithTop ℚ) : ExtendedRat)) fractions
        · rename_i notLess notSame
          exact WithBot.coe_lt_coe.2 (WithTop.coe_lt_coe.2
            (fraction_lt positive' positive (by omega)))
    | above => exact WithBot.coe_lt_coe.2 (WithTop.coe_lt_top _)
  | above =>
    cases y with
    | below => exact WithBot.bot_lt_coe _
    | «at» num den => exact WithBot.coe_lt_coe.2 (WithTop.coe_lt_top _)
    | above => rfl

end Magnitude

/-! ## Floating-point numbers -/

namespace Binary64

theorem fraction_eq (negative : Bool) (significand : Nat) (exponent : Int) :
    fraction negative significand exponent =
      let scaled := rescale 2 significand 1 (-exponent)
      (if negative then -(scaled.1 : Int) else scaled.1, scaled.2) :=
  rfl

theorem fraction_div (negative : Bool) (significand : Nat) (exponent : Int) :
    ((fraction negative significand exponent).1 : ℚ) / (fraction negative significand exponent).2 =
      (if negative then -1 else 1) * significand * 2 ^ exponent := by
  rw [fraction_eq]
  cases negative with
  | false => simp [rescale_number]
  | true => simp [neg_div, rescale_number]

theorem pack_ne_nan (negative : Bool) (significand : Nat) (exponent : Int) :
    pack negative significand exponent ≠ nan := by
  unfold pack
  split <;> simp

theorem ofRatio_ne_nan (negative : Bool) (num den : Nat) : ofRatio negative num den ≠ nan := by
  unfold ofRatio
  simp only
  split
  · simp [signedZero]
  · split <;> exact pack_ne_nan _ _ _

theorem ofDecimal_ne_nan (negative : Bool) (coefficient : Nat) (exponent : Int) :
    ofDecimal negative coefficient exponent ≠ nan := by
  unfold ofDecimal
  simp only
  split
  · simp [signedZero]
  · split
    · simp
    · split
      · simp [signedZero]
      · exact ofRatio_ne_nan _ _ _

end Binary64

/-! ## Numbers -/

namespace Number

/-- The exact value of a number; what is not a number has none, and is put at the bottom. -/
def exact : Number → ExtendedRat
  | .int n => ((n : ℚ) : WithTop ℚ)
  | .real .nan => ⊥
  | .real (.infinite negative) => if negative then ⊥ else (⊤ : WithTop ℚ)
  | .real (.finite negative significand exponent _) =>
    (((if negative then -1 else 1) * significand * 2 ^ exponent : ℚ) : WithTop ℚ)

def IsOrdered (n : Number) : Prop :=
  n ≠ .real .nan

theorem exists_magnitude {n : Number} (ordered : n.IsOrdered) :
    ∃ x, n.magnitude? = some x ∧ x.IsProper ∧ x.value = n.exact := by
  cases n with
  | int n => exact ⟨_, rfl, Nat.one_pos, by simp [Magnitude.value, exact]⟩
  | real x =>
    cases x with
    | nan => exact absurd rfl ordered
    | infinite negative => cases negative <;> exact ⟨_, rfl, trivial, rfl⟩
    | finite negative significand exponent _ =>
      refine ⟨.at (Binary64.fraction negative significand exponent).1
        (Binary64.fraction negative significand exponent).2, rfl,
        Binary64.rescale_positive 2 significand (-exponent) Nat.one_pos Nat.two_pos, ?_⟩
      rw [Magnitude.value, Binary64.fraction_div, exact]

/-- Numbers are compared by their exact values. -/
theorem compare_compares {m n : Number} (orderedLeft : m.IsOrdered) (orderedRight : n.IsOrdered) :
    (m.compare n).Compares m.exact n.exact := by
  obtain ⟨x, isLeft, properLeft, sameLeft⟩ := exists_magnitude orderedLeft
  obtain ⟨y, isRight, properRight, sameRight⟩ := exists_magnitude orderedRight
  rw [compare, isLeft, isRight, ← sameLeft, ← sameRight]
  exact Magnitude.compare_compares properLeft properRight

theorem sameValue_iff {m n : Number} :
    m.sameValue n = true ↔ m.IsOrdered ∧ n.IsOrdered ∧ m.exact = n.exact := by
  by_cases orderedLeft : m.IsOrdered
  · by_cases orderedRight : n.IsOrdered
    · obtain ⟨x, isLeft, properLeft, sameLeft⟩ := exists_magnitude orderedLeft
      obtain ⟨y, isRight, properRight, sameRight⟩ := exists_magnitude orderedRight
      have compares := Magnitude.compare_compares properLeft properRight
      rw [sameLeft, sameRight] at compares
      simp only [sameValue, isLeft, isRight, beq_iff_eq, orderedLeft, orderedRight, true_and,
        compares.eq_eq]
    · obtain rfl : n = .real .nan := not_not.1 orderedRight
      simp [sameValue, magnitude?, IsOrdered]
  · obtain rfl : m = .real .nan := not_not.1 orderedLeft
    simp [sameValue, magnitude?, IsOrdered]

theorem Numeral.value_isOrdered (numeral : Numeral) : numeral.value.IsOrdered := by
  unfold Numeral.value
  split
  · simp [IsOrdered]
  · simp [IsOrdered, Numeral.realValue, Binary64.ofDecimal_ne_nan]

/-- No text reads as what is not a number. -/
theorem isOrdered_of_ofText? {s : String} {n : Number} (reads : ofText? s = some n) :
    n.IsOrdered := by
  obtain ⟨numeral, _, rfl⟩ := Option.map_eq_some_iff.1 reads
  exact Numeral.value_isOrdered numeral

end Number

end LogSelect

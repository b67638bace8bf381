import Mathlib.Data.Int.Log
import Mathlib.Data.Rat.Floor
import Mathlib.Algebra.Order.Field.Rat
import Mathlib.Algebra.Order.Field.Power
import Mathlib.Tactic.Linarith
import Mathlib.Tactic.NormNum
import Mathlib.Tactic.Positivity

/-!
# Double precision

Numbers of double precision as rationals: `nearest` rounds to the nearest of them, and to the one with
an even last digit where two are as near. It has no largest number, so it is the arithmetic of doubles
up to their overflow.
-/

namespace Doubles
variable {x y : ℚ}

/-- The whole number nearest to `x`, the even one of two. -/
def roundEven (x : ℚ) : Int :=
  if Int.fract x < 1 / 2 ∨ Int.fract x = 1 / 2 ∧ ⌊x⌋ % 2 = 0 then ⌊x⌋ else ⌊x⌋ + 1

/-- The exponent of the last digit of `x`. -/
def lastDigit (x : ℚ) : Int :=
  max (Int.log 2 |x| - 52) (-1074)

/-- The double nearest to `x`. -/
def nearest (x : ℚ) : ℚ :=
  roundEven (x / 2 ^ lastDigit x) * 2 ^ lastDigit x

/-- A number of double precision. -/
structure Double where
  val : ℚ
  exact : nearest val = val

lemma roundEven_le {n : Int} (le : x ≤ n) : roundEven x ≤ n := by
  rw [roundEven]
  split
  · exact Int.cast_le.mp ((Int.floor_le x).trans le)
  · rename_i up
    refine Int.add_one_le_iff.mpr (lt_of_le_of_ne (Int.cast_le.mp ((Int.floor_le x).trans le)) ?_)
    rintro rfl
    have zero : Int.fract x = 0 := by
      rw [Int.fract]
      linarith [Int.floor_le x]
    rw [zero] at up
    exact up (.inl (by norm_num))

lemma le_roundEven {n : Int} (le : n ≤ x) : n ≤ roundEven x := by
  have floor : n ≤ ⌊x⌋ := Int.le_floor.mpr le
  rw [roundEven]
  split
  · exact floor
  · exact floor.trans (Int.le_add_one (le_refl _))

lemma roundEven_eq {n : Int} (below : n - 1 / 2 < x) (above : x < n + 1 / 2) : roundEven x = n := by
  rw [roundEven]
  rcases le_or_gt (n : ℚ) x with le | less
  · have floor : ⌊x⌋ = n := Int.floor_eq_iff.mpr ⟨le, by linarith⟩
    have small : Int.fract x < 1 / 2 := by
      rw [Int.fract, floor]
      linarith
    rw [if_pos (.inl small), floor]
  · have floor : ⌊x⌋ = n - 1 := by
      refine Int.floor_eq_iff.mpr ⟨?_, ?_⟩ <;> push_cast <;> linarith
    have large : 1 / 2 < Int.fract x := by
      rw [Int.fract, floor]
      push_cast
      linarith
    have up : ¬ (Int.fract x < 1 / 2 ∨ Int.fract x = 1 / 2 ∧ ⌊x⌋ % 2 = 0) := by
      rintro (small | ⟨half, _⟩)
      · exact large.not_gt small
      · exact large.ne' half
    rw [if_neg up, floor, sub_add_cancel]

/-- Half below an even number. -/
lemma roundEven_half {n : Int} (even : n % 2 = 0) (half : x = n - 1 / 2) : roundEven x = n := by
  have floor : ⌊x⌋ = n - 1 := by
    refine Int.floor_eq_iff.mpr ⟨?_, ?_⟩ <;> push_cast <;> linarith
  have up : ¬ (Int.fract x < 1 / 2 ∨ Int.fract x = 1 / 2 ∧ ⌊x⌋ % 2 = 0) := by
    rintro (small | ⟨_, odd⟩)
    · rw [Int.fract, floor] at small
      push_cast at small
      linarith
    · omega
  rw [roundEven, if_neg up, floor, sub_add_cancel]

lemma roundEven_mono (le : x ≤ y) : roundEven x ≤ roundEven y := by
  rcases (Int.floor_mono le).lt_or_eq with less | same
  · have up : roundEven x ≤ ⌊x⌋ + 1 := by
      apply roundEven_le
      push_cast
      exact (Int.lt_floor_add_one x).le
    exact (up.trans (Int.add_one_le_iff.mpr less)).trans (le_roundEven (Int.floor_le y))
  · have fracts : Int.fract x ≤ Int.fract y := by
      rw [Int.fract, Int.fract, same]
      linarith
    rw [roundEven, roundEven, same]
    split
    · split
      · exact le_refl _
      · exact Int.le_add_one (le_refl _)
    · rename_i up
      split
      · rename_i down
        refine absurd ?_ up
        rcases down with less | ⟨half, even⟩
        · exact .inl (fracts.trans_lt less)
        · rcases (fracts.trans_eq half).lt_or_eq with less | same
          · exact .inl less
          · exact .inr ⟨same, even⟩
      · exact le_refl _

lemma roundEven_intCast (n : Int) : roundEven n = n :=
  le_antisymm (roundEven_le (le_refl _)) (le_roundEven (le_refl _))

/-- Between two powers of two, doubles are the multiples of one last digit. -/
lemma nearest_eq {e : Int} (normal : -1022 ≤ e) (low : 2 ^ e ≤ x) (high : x < 2 ^ (e + 1)) :
    nearest x = roundEven (x / 2 ^ (e - 52)) * 2 ^ (e - 52) := by
  have positive : 0 < x := lt_of_lt_of_le (by positivity) low
  have least : Int.log 2 x ≤ e := by
    have le := (Int.lt_zpow_iff_log_lt (b := 2) (by norm_num) positive).mp (by exact_mod_cast high)
    omega
  have most : e ≤ Int.log 2 x :=
    (Int.zpow_le_iff_le_log (b := 2) (by norm_num) positive).mp (by exact_mod_cast low)
  have digit : lastDigit x = e - 52 := by
    rw [lastDigit, abs_of_pos positive, le_antisymm least most]
    omega
  rw [nearest, digit]

/-- A whole number of last digits is a double. -/
lemma nearest_mul {e n : Int} (normal : -1022 ≤ e) (low : (2 : ℚ) ^ e ≤ n * 2 ^ (e - 52))
    (high : n * 2 ^ (e - 52) < (2 : ℚ) ^ (e + 1)) : nearest (n * 2 ^ (e - 52)) = n * 2 ^ (e - 52) := by
  rw [nearest_eq normal low high, mul_div_cancel_right₀ _ (by positivity), roundEven_intCast]

@[simp]
lemma nearest_zero : nearest 0 = 0 := by
  have zero : roundEven 0 = 0 := roundEven_intCast 0
  rw [nearest, zero_div, zero, Int.cast_zero, zero_mul]

lemma nearest_nonneg (nonneg : 0 ≤ x) : 0 ≤ nearest x := by
  have zero : 0 ≤ roundEven (x / 2 ^ lastDigit x) := by
    apply le_roundEven
    rw [Int.cast_zero]
    positivity
  rw [nearest]
  have cast : (0 : ℚ) ≤ roundEven (x / 2 ^ lastDigit x) := Int.cast_nonneg zero
  positivity

/-- A power of two that is no smaller than the last digit is a whole number of its units. -/
lemma zpow_div {e d : Int} (le : d ≤ e) : ∃ n : Int, (2 : ℚ) ^ e / 2 ^ d = n := by
  refine ⟨2 ^ (e - d).toNat, ?_⟩
  rw [← zpow_sub₀ (by norm_num)]
  push_cast
  rw [← zpow_natCast, Int.toNat_of_nonneg (by omega)]

/-- Rounding keeps the order. Between two exponents there is a power of two that both stay behind. -/
lemma nearest_mono (nonneg : 0 ≤ x) (le : x ≤ y) : nearest x ≤ nearest y := by
  rcases nonneg.eq_or_lt with rfl | positive
  · rw [nearest_zero]
    exact nearest_nonneg le
  · have positive' : 0 < y := positive.trans_le le
    have logs : Int.log 2 |x| ≤ Int.log 2 |y| := by
      rw [abs_of_pos positive, abs_of_pos positive']
      exact Int.log_mono_right positive le
    by_cases same : lastDigit x = lastDigit y
    · rw [nearest, nearest, same]
      refine mul_le_mul_of_nonneg_right (Int.cast_le.mpr (roundEven_mono ?_)) (by positivity)
      exact div_le_div_of_nonneg_right le (by positivity)
    · have digits : lastDigit x < lastDigit y := by
        rw [lastDigit, lastDigit] at same ⊢
        omega
      have exponent : lastDigit y = Int.log 2 |y| - 52 ∧ Int.log 2 |x| < Int.log 2 |y| := by
        rw [lastDigit, lastDigit] at digits
        rw [lastDigit]
        omega
      have below : x ≤ 2 ^ Int.log 2 |y| := by
        have less : x < 2 ^ (Int.log 2 x + 1) := by
          have less := Int.lt_zpow_succ_log_self (b := 2) (by norm_num) x
          exact_mod_cast less
        refine less.le.trans (zpow_le_zpow_right₀ (by norm_num) ?_)
        have step := exponent.2
        rw [abs_of_pos positive] at step
        omega
      have above : 2 ^ Int.log 2 |y| ≤ y := by
        rw [abs_of_pos positive']
        have le := Int.zpow_log_le_self (b := 2) (by norm_num) positive'
        exact_mod_cast le
      obtain ⟨n, is⟩ := zpow_div (e := Int.log 2 |y|) (d := lastDigit x) (by omega)
      obtain ⟨m, is'⟩ := zpow_div (e := Int.log 2 |y|) (d := lastDigit y) (by omega)
      have first : nearest x ≤ 2 ^ Int.log 2 |y| := by
        rw [nearest, ← le_div_iff₀ (by positivity), is]
        refine Int.cast_le.mpr (roundEven_le ?_)
        rw [← is]
        exact div_le_div_of_nonneg_right below (by positivity)
      have second : 2 ^ Int.log 2 |y| ≤ nearest y := by
        rw [nearest, ← div_le_iff₀ (by positivity), is']
        refine Int.cast_le.mpr (le_roundEven ?_)
        rw [← is']
        exact div_le_div_of_nonneg_right above (by positivity)
      exact first.trans second

end Doubles

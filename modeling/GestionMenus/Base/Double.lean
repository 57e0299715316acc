import Mathlib.Algebra.Order.Field.Power
import Mathlib.Data.Int.Log
import Mathlib.Data.Rat.Floor
import Mathlib.Tactic.Positivity
import Mathlib.Tactic.Ring

/-!
# Doubles

A `double` is the rational `m * 2 ^ e` of an integer `m` of 53 bits, with `e` at least `-1074`.  A
decimal text is converted to the nearest one, and to the one with an even `m` when it is halfway
between two.

* `IsDouble` says which rationals are doubles.  Their size is not bounded here: what is too large
  becomes an infinity, which whoever converts has to exclude.
* `toDouble` is the conversion.  `toDouble_eq_self_iff` says which numbers it keeps.
-/

set_option autoImplicit false

namespace Double

/-- The value of some double. -/
def IsDouble (x : ℚ) : Prop := ∃ m e : ℤ, |m| < 2 ^ 53 ∧ -1074 ≤ e ∧ x = m * (2 : ℚ) ^ e

/-- The nearest integer, and the even one of two. -/
def roundEven (x : ℚ) : ℤ :=
  if x - ⌊x⌋ < 1 / 2 ∨ x - ⌊x⌋ = 1 / 2 ∧ ⌊x⌋ % 2 = 0 then ⌊x⌋ else ⌊x⌋ + 1

/-- The exponent of the last of the 53 bits of a number. -/
def ulpExp (x : ℚ) : ℤ := max (Int.log 2 |x| - 52) (-1074)

/-- The double nearest to a number. -/
def toDouble (x : ℚ) : ℚ := roundEven (x / 2 ^ ulpExp x) * 2 ^ ulpExp x

variable {x : ℚ}

@[simp] theorem roundEven_intCast (n : ℤ) : roundEven n = n := by
  simp [roundEven]

theorem roundEven_nonneg (h : 0 ≤ x) : 0 ≤ roundEven x := by
  have hfloor : 0 ≤ ⌊x⌋ := Int.floor_nonneg.2 h
  rw [roundEven]
  split <;> omega

theorem toDouble_nonneg (h : 0 ≤ x) : 0 ≤ toDouble x := by
  have hround : 0 ≤ roundEven (x / 2 ^ ulpExp x) := roundEven_nonneg (by positivity)
  rw [toDouble]
  positivity

/-- The first of the 53 bits is the first bit of the number, or one before it. -/
theorem abs_lt_ulpExp (x : ℚ) : |x| < 2 ^ (53 + ulpExp x) := by
  have hlog : Int.log 2 |x| + 1 ≤ 53 + ulpExp x := by
    have hmax := le_max_left (Int.log 2 |x| - 52) (-1074)
    rw [ulpExp]
    omega
  exact lt_of_lt_of_le (by exact_mod_cast Int.lt_zpow_succ_log_self one_lt_two |x|)
    (zpow_le_zpow_right₀ one_le_two hlog)

/-- A double is a whole number of units in the last place. -/
theorem IsDouble.exists_eq (h : IsDouble x) : ∃ n : ℤ, x = n * (2 : ℚ) ^ ulpExp x := by
  obtain ⟨m, e, hm, he, hx⟩ := h
  by_cases hzero : x = 0
  · exact ⟨0, by simp [hzero]⟩
  have hlt : |x| < 2 ^ (53 + e) := by
    have hm' : |(m : ℚ)| < 2 ^ (53 : ℤ) := by exact_mod_cast hm
    rw [hx, abs_mul, abs_of_pos (by positivity : (0 : ℚ) < 2 ^ e), zpow_add₀ two_ne_zero]
    exact mul_lt_mul_of_pos_right hm' (by positivity)
  -- the first bit of `x` is among those of `m`, so that its last one is not after `e`
  have hlog : Int.log 2 |x| < 53 + e :=
    (Int.lt_zpow_iff_log_lt one_lt_two (abs_pos.2 hzero)).1 (by exact_mod_cast hlt)
  have hulp : ulpExp x ≤ e := max_le (by omega) he
  obtain ⟨k, hk⟩ := Int.le.dest hulp
  refine ⟨m * 2 ^ k, ?_⟩
  calc x = m * 2 ^ (ulpExp x + k) := by rw [hk]; exact hx
    _ = m * 2 ^ k * 2 ^ ulpExp x := by rw [zpow_add₀ two_ne_zero, zpow_natCast]; ring
    _ = _ := by push_cast; rfl

/-- **The conversion keeps the doubles, and nothing else.** -/
theorem toDouble_eq_self_iff (x : ℚ) : toDouble x = x ↔ IsDouble x := by
  refine ⟨?_, ?_⟩
  · intro h
    rw [toDouble] at h
    refine ⟨_, ulpExp x, ?_, le_max_right _ _, h.symm⟩
    generalize roundEven (x / 2 ^ ulpExp x) = n at h
    have hlt := abs_lt_ulpExp x
    have habs : |x| = |(n : ℚ)| * 2 ^ ulpExp x := by
      conv_lhs => rw [← h]
      rw [abs_mul, abs_of_pos (by positivity : (0 : ℚ) < 2 ^ ulpExp x)]
    rw [habs, zpow_add₀ two_ne_zero] at hlt
    have hn : |(n : ℚ)| < 2 ^ (53 : ℤ) := lt_of_mul_lt_mul_right hlt (by positivity)
    exact_mod_cast hn
  · intro h
    obtain ⟨n, hn⟩ := h.exists_eq
    have hquot : x / 2 ^ ulpExp x = n := by
      rw [div_eq_iff (by positivity)]
      exact hn
    rw [toDouble, hquot, roundEven_intCast]
    exact hn.symm

end Double

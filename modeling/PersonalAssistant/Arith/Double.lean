import Mathlib

/-!
# Rounding to double precision

The double nearest to a non-negative rational, ties to even. Exponents are not bounded, so the
values are those of a format without overflow and subnormal numbers. An integer below `2 ^ 53`
is a double, the relative error is at most `2 ^ -53`, and rounding keeps the order.
-/

namespace PersonalAssistant

/-- The nearest integer, ties to even. -/
def roundEven (x : ℚ) : ℤ :=
  if x - ⌊x⌋ < 1 / 2 ∨ (x - ⌊x⌋ = 1 / 2 ∧ ⌊x⌋ % 2 = 0) then ⌊x⌋ else ⌊x⌋ + 1

/-- The distance of two doubles around a positive number. -/
def ulp (x : ℚ) : ℚ := 2 ^ (Int.log 2 x - 52)

/-- The nearest double. -/
def double (x : ℚ) : ℚ := if x = 0 then 0 else roundEven (x / ulp x) * ulp x

/-! ## Integers -/

theorem floor_le_roundEven (x : ℚ) : ⌊x⌋ ≤ roundEven x := by
  unfold roundEven
  split_ifs <;> omega

theorem roundEven_le_floor_add_one (x : ℚ) : roundEven x ≤ ⌊x⌋ + 1 := by
  unfold roundEven
  split_ifs <;> omega

theorem roundEven_intCast (n : ℤ) : roundEven n = n := by
  unfold roundEven
  rw [if_pos]
  · exact Int.floor_intCast n
  · left
    norm_num

theorem abs_roundEven_sub_le (x : ℚ) : |(roundEven x : ℚ) - x| ≤ 1 / 2 := by
  have low : (⌊x⌋ : ℚ) ≤ x := Int.floor_le x
  have high : x < ⌊x⌋ + 1 := Int.lt_floor_add_one x
  unfold roundEven
  rw [abs_le]
  split_ifs with down
  · have half : x - ⌊x⌋ ≤ 1 / 2 := by
      rcases down with less | ⟨tie, _⟩
      · exact less.le
      · exact tie.le
    constructor <;> linarith
  · have half : 1 / 2 ≤ x - ⌊x⌋ := by
      by_contra less
      exact down (.inl (not_le.mp less))
    push_cast
    constructor <;> linarith

variable {x y : ℚ}

/-- Rounding to even keeps the order. -/
theorem roundEven_mono (le : x ≤ y) : roundEven x ≤ roundEven y := by
  have floors : ⌊x⌋ ≤ ⌊y⌋ := Int.floor_le_floor le
  rcases floors.lt_or_eq with less | same
  · have up := roundEven_le_floor_add_one x
    have down := floor_le_roundEven y
    omega
  · -- both lie between the same two integers
    unfold roundEven
    rw [same]
    split_ifs with downx downy
    · exact le_rfl
    · omega
    · rename_i downy
      exfalso
      apply downx
      rcases downy with less | ⟨tie, even⟩
      · left
        linarith
      · rcases (show x - ⌊y⌋ ≤ 1 / 2 by linarith).lt_or_eq with less | tie'
        · exact .inl less
        · exact .inr ⟨tie', even⟩
    · exact le_rfl

/-! ## Doubles -/

theorem ulp_pos (x : ℚ) : 0 < ulp x := zpow_pos (by norm_num) _

theorem two_pow_mul_ulp_le (pos : 0 < x) : 2 ^ 52 * ulp x ≤ x := by
  have low : ((2 : ℕ) : ℚ) ^ Int.log 2 x ≤ x := Int.zpow_log_le_self Nat.one_lt_two pos
  have split : (2 : ℚ) ^ Int.log 2 x = 2 ^ 52 * ulp x := by
    unfold ulp
    rw [zpow_sub₀ (by norm_num)]
    ring
  rw [← split]
  exact_mod_cast low

theorem lt_two_pow_mul_ulp (x : ℚ) : x < 2 ^ 53 * ulp x := by
  have high : x < ((2 : ℕ) : ℚ) ^ (Int.log 2 x + 1) := Int.lt_zpow_succ_log_self Nat.one_lt_two x
  have split : (2 : ℚ) ^ (Int.log 2 x + 1) = 2 ^ 53 * ulp x := by
    unfold ulp
    rw [zpow_sub₀ (by norm_num), zpow_add_one₀ (by norm_num)]
    ring
  rw [← split]
  exact_mod_cast high

theorem abs_double_sub_le (pos : 0 ≤ x) : |double x - x| ≤ x / 2 ^ 53 := by
  rcases pos.lt_or_eq with pos | rfl
  · have unit := ulp_pos x
    have near := abs_roundEven_sub_le (x / ulp x)
    have split : double x - x = (roundEven (x / ulp x) - x / ulp x) * ulp x := by
      unfold double
      rw [if_neg pos.ne', sub_mul, div_mul_cancel₀ _ unit.ne']
    rw [split, abs_mul, abs_of_pos unit]
    have small := two_pow_mul_ulp_le pos
    calc |(roundEven (x / ulp x) : ℚ) - x / ulp x| * ulp x ≤ 1 / 2 * ulp x := by gcongr
      _ ≤ x / 2 ^ 53 := by
        linarith
  · simp [double]

/-- A number that is a multiple of its unit is a double. -/
theorem double_eq_self (n : ℤ) (multiple : x = n * ulp x) : double x = x := by
  unfold double
  split_ifs with zero
  · exact zero.symm
  · have whole : x / ulp x = n := by
      rw [div_eq_iff (ulp_pos x).ne']
      exact multiple
    rw [whole, roundEven_intCast, ← multiple]

theorem double_natCast {n : ℕ} (small : n < 2 ^ 53) : double n = n := by
  rcases Nat.eq_zero_or_pos n with rfl | pos
  · simp [double]
  · have exponent : Int.log 2 (n : ℚ) ≤ 52 := by
      have log : Nat.log 2 n < 53 := Nat.log_lt_of_lt_pow pos.ne' small
      rw [Int.log_natCast]
      omega
    obtain ⟨k, gap⟩ : ∃ k : ℕ, (52 : ℤ) - Int.log 2 (n : ℚ) = k := ⟨_, (Int.toNat_of_nonneg (by omega)).symm⟩
    apply double_eq_self (n * 2 ^ k)
    have unit : ulp (n : ℚ) = (2 ^ k)⁻¹ := by
      unfold ulp
      rw [show Int.log 2 (n : ℚ) - 52 = -(k : ℤ) by omega, zpow_neg, zpow_natCast]
    rw [unit]
    push_cast
    rw [mul_assoc, mul_inv_cancel₀ (by positivity), mul_one]

theorem double_nonneg (pos : 0 ≤ x) : 0 ≤ double x := by
  unfold double
  split_ifs
  · exact le_rfl
  · have whole : (0 : ℤ) ≤ roundEven (x / ulp x) := by
      have zero := roundEven_intCast 0
      rw [← zero]
      apply roundEven_mono
      push_cast
      exact div_nonneg pos (ulp_pos x).le
    have cast : (0 : ℚ) ≤ roundEven (x / ulp x) := by exact_mod_cast whole
    exact mul_nonneg cast (ulp_pos x).le

/-- Rounding to a double keeps the order of the numbers that are not negative. -/
theorem double_mono (pos : 0 ≤ x) (le : x ≤ y) : double x ≤ double y := by
  rcases pos.lt_or_eq with pos | rfl
  · have posy : 0 < y := pos.trans_le le
    have exponents : Int.log 2 x ≤ Int.log 2 y := Int.log_mono_right pos le
    unfold double
    rw [if_neg pos.ne', if_neg posy.ne']
    rcases exponents.lt_or_eq with less | same
    · -- a power of two lies between them
      have below : roundEven (x / ulp x) ≤ 2 ^ 53 := by
        have top := roundEven_intCast (2 ^ 53)
        rw [← top]
        apply roundEven_mono
        push_cast
        rw [div_le_iff₀ (ulp_pos x)]
        exact (lt_two_pow_mul_ulp x).le
      have above : (2 : ℤ) ^ 52 ≤ roundEven (y / ulp y) := by
        have bottom := roundEven_intCast (2 ^ 52)
        rw [← bottom]
        apply roundEven_mono
        push_cast
        rw [le_div_iff₀ (ulp_pos y)]
        exact two_pow_mul_ulp_le posy
      have units : 2 * ulp x ≤ ulp y := by
        unfold ulp
        rw [← zpow_one_add₀ (by norm_num)]
        apply zpow_le_zpow_right₀
        · norm_num
        · omega
      have below' : (roundEven (x / ulp x) : ℚ) ≤ 2 ^ 53 := by exact_mod_cast below
      have above' : (2 : ℚ) ^ 52 ≤ roundEven (y / ulp y) := by exact_mod_cast above
      calc (roundEven (x / ulp x) : ℚ) * ulp x ≤ 2 ^ 53 * ulp x := by
            apply mul_le_mul_of_nonneg_right below' (ulp_pos x).le
        _ = 2 ^ 52 * (2 * ulp x) := by ring
        _ ≤ 2 ^ 52 * ulp y := by gcongr
        _ ≤ roundEven (y / ulp y) * ulp y := by
            apply mul_le_mul_of_nonneg_right above' (ulp_pos y).le
    · have unit : ulp x = ulp y := by
        unfold ulp
        rw [same]
      rw [unit]
      apply mul_le_mul_of_nonneg_right _ (ulp_pos y).le
      have rounds : roundEven (x / ulp y) ≤ roundEven (y / ulp y) := by
        apply roundEven_mono
        exact div_le_div_of_nonneg_right le (ulp_pos y).le
      exact_mod_cast rounds
  · have zero : double 0 = 0 := by simp [double]
    exact double_nonneg le

end PersonalAssistant

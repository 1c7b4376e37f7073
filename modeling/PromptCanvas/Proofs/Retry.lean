import PromptCanvas.Proofs.Scalar.Exact
import PromptCanvas.Retry

set_option autoImplicit false
set_option relaxedAutoImplicit false

namespace PromptCanvas

namespace Scalar

private theorem timesPower_exact (seed base : ℝ) (n : Nat) :
    timesPower seed base n = seed * base ^ n := by
  induction n using Nat.strongRecOn generalizing seed base with
  | ind n ih =>
    have halves : n = 2 * (n / 2) + n % 2 := (Nat.div_add_mod n 2).symm
    have square : base ^ (2 * (n / 2)) = (base * base) ^ (n / 2) := by
      rw [pow_mul, sq]
    rw [timesPower]
    by_cases small : n < 2
    · obtain rfl | rfl : n = 0 ∨ n = 1 := by omega
      · simp
      · simp
    · rw [if_neg small, ih (n / 2) (by omega)]
      rcases Nat.mod_two_eq_zero_or_one n with even | odd
      · have same : base ^ n = (base * base) ^ (n / 2) := by
          rw [← square]
          congr 1
          omega
        simp [even, same]
      · have same : base ^ n = base * (base * base) ^ (n / 2) := by
          rw [← square, ← pow_succ']
          congr 1
          omega
        simp [odd, same, mul_assoc]

private theorem power_exact (x : ℝ) (n : Nat) : power x n = x ^ n := by
  have one : (1.0 : ℝ) = 1 := by norm_num
  have natural : ¬ (n : Int) < 0 := by omega
  rw [power, if_neg natural, timesPower_exact, one, one_mul, Int.natAbs_natCast]

end Scalar

namespace RetryPolicy

private theorem exponent_of_small {attempt : Nat} (small : attempt < 2 ^ 31) :
    exponent attempt = attempt := by
  unfold exponent
  rw [Int.bmod_eq_of_le] <;> omega

variable (p : RetryPolicy ℝ) {i j : Nat}

private theorem delay_exact (small : i < 2 ^ 31) :
    p.delay i = ⌊min (p.initialDelay * p.multiplier ^ i) (p.maxDelay : ℝ)⌋₊ := by
  rw [delay, exponent_of_small small, Scalar.power_exact, Scalar.smaller_eq_exact,
    Scalar.ofNat_eq_exact, Scalar.ofNat_eq_exact]
  rfl

theorem delay_mono (grows : 1 ≤ p.multiplier) (le : i ≤ j) (small : j < 2 ^ 31) :
    p.delay i ≤ p.delay j := by
  rw [p.delay_exact (Nat.lt_of_le_of_lt le small), p.delay_exact small]
  have longer : p.multiplier ^ i ≤ p.multiplier ^ j := pow_le_pow_right₀ grows le
  gcongr

theorem delay_mem (grows : 1 ≤ p.multiplier) (small : i < 2 ^ 31) :
    min p.initialDelay p.maxDelay ≤ p.delay i ∧ p.delay i ≤ p.maxDelay := by
  rw [p.delay_exact small]
  constructor
  · have longer : 1 ≤ p.multiplier ^ i := one_le_pow₀ grows
    have first : (p.initialDelay : ℝ) ≤ p.initialDelay * p.multiplier ^ i :=
      le_mul_of_one_le_right (Nat.cast_nonneg _) longer
    refine Nat.le_floor ?_
    rw [Nat.cast_min]
    exact min_le_min_right _ first
  · refine (Nat.floor_mono (min_le_right _ _)).trans ?_
    rw [Nat.floor_natCast]

end RetryPolicy

end PromptCanvas

import Mathlib.Analysis.SpecialFunctions.Trigonometric.Basic
import Mathlib.Analysis.SpecialFunctions.Sqrt
import PromptCanvas.Proofs.Scalar.Order

set_option autoImplicit false
set_option relaxedAutoImplicit false

namespace PromptCanvas

noncomputable instance : Scalar ℝ where
  decidableLE := fun x y => Classical.dec (x ≤ y)
  decidableLT := fun x y => Classical.dec (x < y)
  agrees := fun x y => decide (x = y)
  ofInt := fun n => (n : ℝ)
  truncate := fun x => ⌊x⌋₊
  isFinite := fun _ => true
  hypot := fun x y => √(x ^ 2 + y ^ 2)
  exp := Real.exp
  cosDegrees := fun x => Real.cos (x * (Real.pi / 180))

instance : OrderedScalar ℝ where
  agrees_of_isFinite _ := decide_eq_true rfl
  not_lt_of_le := not_lt_of_ge
  agrees_of_le _ := decide_eq_true rfl
  le_trans := le_trans
  not_lt_of_lt := lt_asymm
  not_lt_trans _ xy yz := not_lt.mpr ((not_lt.mp yz).trans (not_lt.mp xy))

instance : TotalScalar ℝ where
  agrees_one := decide_eq_true rfl
  le_of_not_lt _ _ := not_lt.mp

namespace Scalar

theorem abs_eq_exact (x : ℝ) : abs x = |x| := by
  have zero : (0.0 : ℝ) = 0 := by norm_num
  unfold abs
  split
  · next below => exact (abs_of_neg (below.trans_eq zero)).symm
  · next above => exact (abs_of_nonneg (zero.symm.trans_le (not_lt.mp above))).symm

noncomputable def degree : ℝ := Real.pi / 180

theorem cosDegrees_eq_exact (x : ℝ) : cosDegrees x = Real.cos (x * degree) := rfl

theorem ofNat_eq_exact (n : Nat) : (ofNat n : ℝ) = n := Int.cast_natCast n

theorem isUndefined_exact (x : ℝ) : isUndefined x = false :=
  Bool.not_eq_eq_eq_not.mpr (decide_eq_true rfl)

theorem larger_eq_exact (x y : ℝ) : larger x y = max x y := by
  simp only [larger, isUndefined_exact, Bool.false_eq_true, if_false]
  exact (max_def_lt x y).symm

theorem smaller_eq_exact (x y : ℝ) : smaller x y = min x y := by
  simp only [smaller, isUndefined_exact, Bool.false_eq_true, if_false]
  rw [min_comm]
  exact (min_def_lt y x).symm

theorem clamp_eq_exact {x lo hi : ℝ} (above : lo ≤ x) (below : x ≤ hi) : clamp x lo hi = x := by
  simp only [clamp, if_neg (not_lt.mpr above), if_neg (not_lt.mpr below)]

end Scalar

end PromptCanvas

import Mathlib
import PromptCanvas.Proofs.Scalar.Order
import PromptCanvas.Text.Numeral

/-!
Whole numbers in binary floating point.

A whole number of at most 53 binary digits has one form: its digits are shifted to the top of the
mantissa.  Products that stay within these digits are exact, and the order is that of the numbers.
-/

set_option autoImplicit false
set_option relaxedAutoImplicit false

namespace PromptCanvas.Scalar

open Float.Model UnpackedFloat

def places (n : Nat) : Nat := 52 - n.log2

def whole (s : Sign) (n : Nat) : UnpackedFloat :=
  if pos : 0 < n then
    .finite s (n <<< places n) (-(places n : Int)) (by
      rw [Nat.shiftLeft_eq]
      exact Nat.mul_pos pos (Nat.two_pow_pos _))
  else .zero s

private theorem shift_exact (n k : Nat) :
    (⟨n <<< k, false, false⟩ : ExtendedMantissa) >>> k = ⟨n, false, false⟩ := by
  change k.repeat ExtendedMantissa.shiftRightOne _ = _
  induction k generalizing n with
  | zero => rfl
  | succ k ih =>
    have step := ih (n <<< 1)
    rw [← Nat.shiftLeft_add, Nat.add_comm] at step
    rw [Nat.repeat, step, ExtendedMantissa.shiftRightOne]
    simp [Nat.shiftLeft_eq]

variable {n : Nat}

private theorem shift_ne_zero (pos : 0 < n) (k : Nat) : n <<< k ≠ 0 :=
  Nat.shiftLeft_eq_zero_iff.not.mpr (Nat.ne_of_gt pos)

private theorem log2_shift (pos : 0 < n) (k : Nat) : (n <<< k).log2 = n.log2 + k := by
  have lower := Nat.log2_self_le (Nat.ne_of_gt pos)
  have upper := Nat.lt_log2_self (n := n)
  rw [Nat.log2_eq_iff (shift_ne_zero pos k), Nat.shiftLeft_eq, Nat.add_right_comm, Nat.pow_add,
    Nat.pow_add]
  exact ⟨Nat.mul_le_mul_right _ lower, Nat.mul_lt_mul_of_pos_right upper (Nat.two_pow_pos k)⟩

private theorem log2_le_log2 {m : Nat} (pos : 0 < m) (le : m ≤ n) : m.log2 ≤ n.log2 := by
  rw [Nat.le_log2 (Nat.ne_of_gt (Nat.lt_of_lt_of_le pos le))]
  exact (Nat.log2_self_le (Nat.ne_of_gt pos)).trans le

private theorem log2_le_of_small (small : n < 2 ^ 53) : n.log2 ≤ 52 := by
  rcases Nat.eq_zero_or_pos n with rfl | pos
  · decide
  · have := (Nat.log2_lt (Nat.ne_of_gt pos)).mpr small
    omega

private theorem targetExponent_shift (pos : 0 < n) (small : n < 2 ^ 53) (k : Nat) :
    Format.binary64.targetExponent (totalExponent (n <<< k) (-(k : Int))) = -(places n : Int) := by
  have digits := log2_le_of_small small
  rw [totalExponent, log2_shift pos]
  simp only [Format.targetExponent, Format.mantissaBits, Format.minExponent, places]
  omega

private theorem shiftToTargetExponent_eq (pos : 0 < n) (small : n < 2 ^ 53) (k : Nat) :
    shiftToTargetExponent Format.binary64 (n <<< (places n + k)) (-(places n + k : Nat)) .exact =
      (⟨n <<< places n, false, false⟩, -(places n : Int)) := by
  have amount : (-(places n : Int) - -(places n + k : Nat)).toNat = k := by omega
  rw [shiftToTargetExponent, targetExponent_shift pos small, shiftToExponent, amount,
    Nat.shiftLeft_add]
  refine Prod.ext (shift_exact _ k) ?_
  change -((places n + k : Nat) : Int) + (k : Int) = -(places n : Int)
  omega

private theorem round_whole (s : Sign) (pos : 0 < n) (small : n < 2 ^ 53) (k : Nat) :
    roundWithAccuracy Format.binary64 s (n <<< (places n + k)) (-(places n + k : Nat)) .exact =
      whole s n := by
  have digits := shift_ne_zero pos (places n)
  have again := shiftToTargetExponent_eq pos small 0
  have kept : ExtendedMantissa.roundedMantissa ⟨n <<< places n, false, false⟩ = n <<< places n :=
    rfl
  simp only [roundWithAccuracy, shiftToTargetExponent_eq pos small k, kept]
  rw [Nat.add_zero] at again
  simp only [again, whole, digits, pos, dif_pos, dif_neg, not_false_eq_true]

private theorem implicit_append {m : Nat} (lower : 2 ^ 52 ≤ m) (upper : m < 2 ^ 53) :
    (1#1 ++ BitVec.ofNat 52 m).toNat = m := by
  rw [BitVec.toNat_append, ← Nat.shiftLeft_add_eq_or_of_lt (BitVec.isLt _), BitVec.toNat_ofNat]
  simp only [BitVec.toNat_ofNat, Nat.shiftLeft_eq]
  omega

private theorem unpack_packComponents (s : Sign) {m e : Nat} (lower : 2 ^ 52 ≤ m)
    (upper : m < 2 ^ 53) (normal : 0 < e) (ordinary : e < 2047) :
    UnpackedFloat.unpack Format.binary64
        (packComponents Format.binary64 s (BitVec.ofNat 11 e) (BitVec.ofNat 52 m)) =
      .finite s m (e - (1023 + 52 : Nat)) (Nat.lt_of_lt_of_le (Nat.two_pow_pos 52) lower) := by
  have exponent : (BitVec.ofNat 11 e).toNat = e := by
    rw [BitVec.toNat_ofNat]
    omega
  have notLast : BitVec.ofNat 11 e ≠ -1#11 := fun same => by
    have value : e = 2047 := exponent.symm.trans (congrArg BitVec.toNat same)
    omega
  have notFirst : BitVec.ofNat 11 e ≠ 0#11 := fun same => by
    have value : e = 0 := exponent.symm.trans (congrArg BitVec.toNat same)
    omega
  have mantissa := implicit_append lower upper
  simp only [UnpackedFloat.unpack, unpackMantissa_packComponents, unpackExponent_packComponents,
    unpackSign_packComponents, Sign.ofBitVec_toBitVec, notLast, notFirst, if_false, exponent,
    mantissa]
  rfl

private theorem unpack_pack_whole (s : Sign) (small : n < 2 ^ 53) :
    (Float.Model.pack (whole s n)).unpack = whole s n := by
  rcases Nat.eq_zero_or_pos n with rfl | pos
  · cases s <;> rfl
  have digits := log2_le_of_small small
  have top : (n <<< places n).log2 = 52 := by
    rw [log2_shift pos, places]
    omega
  obtain ⟨lower, upper⟩ := (Nat.log2_eq_iff (shift_ne_zero pos _)).mp top
  have few : places n ≤ 52 := Nat.sub_le _ _
  have biased : (-(places n : Int) + Format.binary64.exponentBias +
      Format.binary64.mantissaBitsWithoutImplicit).toNat = 1075 - places n := by
    have bias : Format.binary64.exponentBias = 1023 := rfl
    have width : Format.binary64.mantissaBitsWithoutImplicit = 52 := rfl
    omega
  have packed : UnpackedFloat.pack Format.binary64 (whole s n) =
      packComponents Format.binary64 s (BitVec.ofNat 11 (1075 - places n))
        (BitVec.ofNat 52 (n <<< places n)) := by
    have range : 2 ^ Format.binary64.exponentBits = 2048 := rfl
    have finite : ¬ 2 ^ Format.binary64.exponentBits ≤ 1075 - places n + 1 := by omega
    have full : 52 + 1 = Format.binary64.mantissaBits := rfl
    simp only [whole, dif_pos pos, UnpackedFloat.pack, top, biased, if_neg finite, if_pos full]
  have read := unpack_packComponents s lower upper (e := 1075 - places n) (by omega) (by omega)
  rw [← packed] at read
  refine read.trans ?_
  rw [whole, dif_pos pos]
  congr 1
  omega

private theorem normalize_whole (small : n < 2 ^ 53) :
    UnpackedFloat.normalize Format.binary64 n 0 .positive = whole .positive n := by
  rcases Nat.eq_zero_or_pos n with rfl | pos
  · rfl
  have target : Format.binary64.targetExponent (totalExponent n 0) = -(places n : Int) :=
    targetExponent_shift pos small 0
  have amount : (0 - -(places n : Int)).toNat = places n := by omega
  have positive : compare (n : Int) 0 = .gt := compare_gt_iff_gt.mpr (by omega)
  have rounded := round_whole .positive pos small 0
  simp only [UnpackedFloat.normalize, UnpackedFloat.round, positive, Int.toNat_natCast, target,
    decreaseExponent, amount]
  simpa using rounded

private theorem places_mul_le {a b : Nat} (posA : 0 < a) (posB : 0 < b) (small : a * b < 2 ^ 53) :
    places (a * b) ≤ places a + places b := by
  have first := log2_le_log2 posA (Nat.le_mul_of_pos_right a posB)
  have second := log2_le_log2 posB (Nat.le_mul_of_pos_left b posA)
  have digits := log2_le_of_small small
  unfold places
  omega

private theorem mul_whole (s t : Sign) {a b : Nat} (small : a * b < 2 ^ 53) :
    UnpackedFloat.mul Format.binary64 (whole s a) (whole t b) = whole (s * t) (a * b) := by
  rcases Nat.eq_zero_or_pos a with rfl | posA
  · rcases Nat.eq_zero_or_pos b with rfl | posB
    · rfl
    · simp [whole, UnpackedFloat.mul, posB]
  rcases Nat.eq_zero_or_pos b with rfl | posB
  · simp [whole, UnpackedFloat.mul, posA]
  obtain ⟨k, extra⟩ := Nat.exists_eq_add_of_le (places_mul_le posA posB small)
  have digits : (a <<< places a) * (b <<< places b) = (a * b) <<< (places (a * b) + k) := by
    rw [← extra]
    simp only [Nat.shiftLeft_eq, Nat.pow_add]
    exact Nat.mul_mul_mul_comm _ _ _ _
  have exponent : -(places a : Int) + -(places b : Int) = -(places (a * b) + k : Nat) := by omega
  have rounded := round_whole (s * t) (Nat.mul_pos posA posB) small k
  rw [← digits, ← exponent] at rounded
  rw [whole, dif_pos posA, whole, dif_pos posB]
  exact rounded

private theorem neg_whole (s : Sign) (n : Nat) : (whole s n).neg = whole (-s) n := by
  unfold whole
  split <;> rfl

def IsWhole (x : Float) (s : Sign) (n : Nat) : Prop := x.toModel.unpack = whole s n ∧ n < 2 ^ 53

namespace IsWhole

variable {x y : Float} {s t : Sign} {a b : Nat}

theorem mul (hx : IsWhole x s a) (hy : IsWhole y t b) (small : a * b < 2 ^ 53) :
    IsWhole (x * y) (s * t) (a * b) := by
  refine ⟨?_, small⟩
  change (Float.Model.pack (UnpackedFloat.mul Format.binary64 x.toModel.unpack
    y.toModel.unpack)).unpack = _
  rw [hx.1, hy.1, mul_whole s t small, unpack_pack_whole _ small]

private theorem neg (hx : IsWhole x s a) : IsWhole (-x) (-s) a := by
  refine ⟨?_, hx.2⟩
  change (Float.Model.pack x.toModel.unpack.neg).unpack = _
  rw [hx.1, neg_whole, unpack_pack_whole _ hx.2]

private theorem ofUInt64 {n : UInt64} (small : n.toNat < 2 ^ 53) :
    IsWhole n.toFloat .positive n.toNat := by
  refine ⟨?_, small⟩
  change (Float.Model.pack
    (UnpackedFloat.normalize Format.binary64 (n.toNat : Int) 0 .positive)).unpack = _
  rw [normalize_whole small, unpack_pack_whole _ small]

theorem ofNat (small : n < 2 ^ 53) : IsWhole (Float.ofNat n) .positive n := by
  have digits : n.toUInt64.toNat = n := by
    rw [Nat.toUInt64, UInt64.toNat_ofNat']
    omega
  have read : IsWhole n.toUInt64.toFloat .positive n := by
    have read := ofUInt64 (n := n.toUInt64) (by omega)
    rwa [digits] at read
  have one : IsWhole (Float.ofBits 0x3FF0000000000000) .positive 1 := ⟨rfl, by decide⟩
  have form : Float.ofNat n = n.toUInt64.toFloat * Float.ofBits 0x3FF0000000000000 :=
    dif_pos ⟨small, by decide⟩
  have product := read.mul one (by omega)
  rw [form]
  rwa [Nat.mul_one] at product

end IsWhole

def wholeRank (n : Nat) : Int ×ₗ Int ×ₗ Int :=
  if 0 < n then toLex (1, toLex (-(places n : Int), (n <<< places n : Nat)))
  else toLex (0, toLex (0, 0))

private theorem rank_zero : rank? (0.0 : Float).toModel.unpack = some (wholeRank 0) := rfl

private theorem wholeRank_le {m : Nat} (le : m ≤ n) (small : n < 2 ^ 53) :
    wholeRank m ≤ wholeRank n := by
  rcases Nat.eq_zero_or_pos m with rfl | pos
  · have zero : wholeRank 0 = toLex (0, toLex (0, 0)) := rfl
    rw [zero, wholeRank]
    split
    · exact Prod.Lex.toLex_le_toLex.mpr (.inl Int.zero_lt_one)
    · exact le_rfl
  have posN : 0 < n := by omega
  have digits := log2_le_of_small small
  have lower := log2_le_log2 pos le
  rw [wholeRank, wholeRank, if_pos pos, if_pos posN]
  refine Prod.Lex.toLex_le_toLex.mpr (.inr ⟨rfl, Prod.Lex.toLex_le_toLex.mpr ?_⟩)
  rcases Nat.lt_or_eq_of_le lower with less | same
  · refine .inl ?_
    simp only [places]
    omega
  · have aligned : places m = places n := by rw [places, same, places]
    refine .inr ⟨congrArg (fun p : Nat => -(p : Int)) aligned, ?_⟩
    rw [aligned, Nat.shiftLeft_eq, Nat.shiftLeft_eq]
    exact Int.ofNat_le.mpr (Nat.mul_le_mul_right _ le)

namespace IsWhole

variable {x y : Float} {m : Nat}

private theorem rank_eq (hx : IsWhole x .positive n) :
    rank? x.toModel.unpack = some (wholeRank n) := by
  rw [hx.1]
  unfold whole wholeRank
  split <;> rfl

theorem le (hx : IsWhole x .positive m) (hy : IsWhole y .positive n) (le : m ≤ n) : x ≤ y :=
  le_iff_rank.mpr ⟨_, hx.rank_eq, _, hy.rank_eq, wholeRank_le le hy.2⟩

private theorem not_lt_zero (hx : IsWhole x .positive n) : ¬ x < 0.0 := by
  intro below
  obtain ⟨i, x_at, j, zero_at, less⟩ := lt_iff_rank.mp below
  obtain rfl := Option.some.inj (hx.rank_eq.symm.trans x_at)
  obtain rfl := Option.some.inj (rank_zero.symm.trans zero_at)
  exact less.not_ge (wholeRank_le (Nat.zero_le n) hx.2)

private theorem lt_zero (hx : IsWhole x .negative n) (pos : 0 < n) : x < 0.0 := by
  have rank : rank? x.toModel.unpack =
      some (toLex (-1, toLex (- -(places n : Int), -((n <<< places n : Nat) : Int)))) := by
    rw [hx.1, whole, dif_pos pos]
    rfl
  have below : (-1 : Int) < 0 := by decide
  exact lt_iff_rank.mpr ⟨_, rank, _, rank_zero, Prod.Lex.toLex_lt_toLex.mpr (.inl below)⟩

theorem abs {s : Sign} (hx : IsWhole x s n) (signed : n = 0 → s = .positive) :
    IsWhole (Scalar.abs x) .positive n := by
  unfold Scalar.abs
  cases s with
  | positive =>
    rw [if_neg hx.not_lt_zero]
    exact hx
  | negative =>
    have pos : 0 < n := Nat.pos_of_ne_zero fun zero => by cases signed zero
    rw [if_pos (hx.lt_zero pos)]
    exact hx.neg

end IsWhole

def signOf : Int → Sign
  | .ofNat _ => .positive
  | .negSucc _ => .negative

theorem IsWhole.ofInt {z : Int} (small : z.natAbs < 2 ^ 53) :
    IsWhole (Float.ofInt z) (signOf z) z.natAbs := by
  cases z with
  | ofNat n => exact IsWhole.ofNat small
  | negSucc n => exact (IsWhole.ofNat small).neg

private theorem IsWhole.isFinite {x : Float} {s : Sign} (hx : IsWhole x s n) :
    isFinite x = true := by
  change x.toModel.unpack.isFinite = true
  rw [hx.1, whole]
  split <;> rfl

end PromptCanvas.Scalar

namespace PromptCanvas

/-- Whole numbers of 32 bits are finite measurements, and so is one as the least side of a box. -/
class FiniteScalar (α : Type) [Scalar α] : Prop where
  isFinite_one : Scalar.isFinite (1.0 : α) = true
  isFinite_ofNat {n : Nat} : n ≤ Text.max32 → Scalar.isFinite (Scalar.ofNat n : α) = true

instance : FiniteScalar Float where
  isFinite_one := rfl
  isFinite_ofNat {n} narrow := by
    have width : Text.max32 < 2 ^ 53 := by decide
    have small : (Int.ofNat n).natAbs < 2 ^ 53 := Nat.lt_of_le_of_lt narrow width
    exact (Scalar.IsWhole.ofInt small).isFinite

end PromptCanvas

import Mathlib.Data.Prod.Lex
import Mathlib.Order.Compare
import PromptCanvas.Proofs.Scalar

set_option autoImplicit false
set_option relaxedAutoImplicit false

namespace PromptCanvas

/-- Defined measurements are totally ordered. -/
class OrderedScalar (α : Type) [Scalar α] : Prop extends LawfulScalar α where
  agrees_of_le {x y : α} : x ≤ y → Scalar.agrees y y = true
  le_trans {x y z : α} : x ≤ y → y ≤ z → x ≤ z
  not_lt_of_lt {x y : α} : x < y → ¬ y < x
  /-- Not to be less carries over a defined measurement in between. -/
  not_lt_trans {x y z : α} : Scalar.agrees y y = true → ¬ x < y → ¬ y < z → ¬ x < z

/-- Of two defined measurements one is at most as large as the other, and one is defined. -/
class TotalScalar (α : Type) [Scalar α] : Prop extends OrderedScalar α where
  agrees_one : Scalar.agrees (1.0 : α) 1.0 = true
  le_of_not_lt {x y : α} :
    Scalar.agrees x x = true → Scalar.agrees y y = true → ¬ x < y → y ≤ x

/-- What agrees with the same agrees. -/
class TransitiveScalar (α : Type) [Scalar α] : Prop where
  agrees_trans {x y z : α} :
    Scalar.agrees x y = true → Scalar.agrees y z = true → Scalar.agrees x z = true

namespace Scalar

section Float

open Float.Model UnpackedFloat

def rank? : UnpackedFloat → Option (Int ×ₗ Int ×ₗ Int)
  | notANumber => none
  | infinity .negative => some (toLex (-2, toLex (0, 0)))
  | finite .negative m e _ => some (toLex (-1, toLex (-e, -m)))
  | zero _ => some (toLex (0, toLex (0, 0)))
  | finite .positive m e _ => some (toLex (1, toLex (e, m)))
  | infinity .positive => some (toLex (2, toLex (0, 0)))

private theorem compare_neg (x y : Int) : compare (-x) (-y) = (compare x y).swap := by
  rcases lt_trichotomy x y with lt | rfl | gt
  · rw [compare_lt_iff_lt.mpr lt, compare_gt_iff_gt.mpr (Int.neg_lt_neg lt)]
    rfl
  · rw [Std.ReflOrd.compare_self, Std.ReflOrd.compare_self]
    rfl
  · rw [compare_gt_iff_gt.mpr gt, compare_lt_iff_lt.mpr (Int.neg_lt_neg gt)]
    rfl

private theorem compare_natCast (m n : Nat) : compare (m : Int) n = compare m n := by
  simp only [compare, compareOfLessAndEq, Int.ofNat_lt, Int.ofNat_inj]

private theorem compare_eq_rank (a b : UnpackedFloat) :
    a.compare b = (rank? a).bind fun x => (rank? b).map fun y => compare x y := by
  cases a with
  | notANumber => cases b <;> rfl
  | infinity s =>
    cases b with
    | infinity s' => cases s <;> cases s' <;> rfl
    | finite s' => cases s <;> cases s' <;> rfl
    | notANumber | zero => cases s <;> rfl
  | zero s =>
    cases b with
    | infinity s' | finite s' => cases s' <;> rfl
    | notANumber | zero => rfl
  | finite s m e _ =>
    cases b with
    | infinity s' => cases s <;> cases s' <;> rfl
    | notANumber | zero => cases s <;> rfl
    | finite s' m' e' _ =>
      cases s <;> cases s'
      · change some _ = some ((compare (-e) (-e')).then (compare (-(m : Int)) (-m')))
        rw [compare_neg, compare_neg, compare_natCast, ← Ordering.swap_then]
      · rfl
      · rfl
      · change some _ = some ((compare e e').then (compare (m : Int) m'))
        rw [compare_natCast]

theorem le_iff_rank {x y : Float} :
    x ≤ y ↔ ∃ i ∈ rank? x.toModel.unpack, ∃ j ∈ rank? y.toModel.unpack, i ≤ j := by
  have le : x ≤ y ↔ (x.toModel.unpack.compare y.toModel.unpack).any (·.isLE) = true :=
    ⟨of_decide_eq_true, decide_eq_true⟩
  rw [le, compare_eq_rank]
  cases rank? x.toModel.unpack <;> cases rank? y.toModel.unpack <;>
    simp [← Ordering.ne_gt_iff_isLE, compare_le_iff_le]

theorem lt_iff_rank {x y : Float} :
    x < y ↔ ∃ i ∈ rank? x.toModel.unpack, ∃ j ∈ rank? y.toModel.unpack, i < j := by
  have lt : x < y ↔ (x.toModel.unpack.compare y.toModel.unpack == some .lt) = true :=
    ⟨of_decide_eq_true, decide_eq_true⟩
  rw [lt, compare_eq_rank]
  cases rank? x.toModel.unpack <;> cases rank? y.toModel.unpack <;>
    simp [compare_lt_iff_lt]

private theorem agrees_iff_rank {x y : Float} :
    agrees x y = true ↔ ∃ i, i ∈ rank? x.toModel.unpack ∧ i ∈ rank? y.toModel.unpack := by
  change (x.toModel.unpack.compare y.toModel.unpack == some .eq) = true ↔ _
  rw [compare_eq_rank]
  cases rank? x.toModel.unpack <;> cases rank? y.toModel.unpack <;> simp
  exact compare_eq_iff_eq.trans eq_comm

instance : OrderedScalar Float where
  agrees_of_le {x y} le := by
    obtain ⟨-, -, j, y_at, -⟩ := le_iff_rank.mp le
    exact agrees_iff_rank.mpr ⟨j, y_at, y_at⟩
  le_trans {x y z} first second := by
    obtain ⟨i, x_at, j, y_at, ij⟩ := le_iff_rank.mp first
    obtain ⟨j', y_at', k, z_at, jk⟩ := le_iff_rank.mp second
    obtain rfl := Option.mem_unique y_at y_at'
    exact le_iff_rank.mpr ⟨i, x_at, k, z_at, ij.trans jk⟩
  not_lt_of_lt {x y} first second := by
    obtain ⟨i, x_at, j, y_at, ij⟩ := lt_iff_rank.mp first
    obtain ⟨j', y_at', i', x_at', ji⟩ := lt_iff_rank.mp second
    obtain rfl := Option.mem_unique y_at y_at'
    obtain rfl := Option.mem_unique x_at x_at'
    exact ij.not_gt ji
  not_lt_trans {x y z} defined xy yz lt := by
    obtain ⟨j, y_at, -⟩ := agrees_iff_rank.mp defined
    obtain ⟨i, x_at, k, z_at, ik⟩ := lt_iff_rank.mp lt
    have ij : ¬ i < j := fun less => xy (lt_iff_rank.mpr ⟨i, x_at, j, y_at, less⟩)
    have jk : ¬ j < k := fun less => yz (lt_iff_rank.mpr ⟨j, y_at, k, z_at, less⟩)
    exact ik.not_ge ((not_lt.mp jk).trans (not_lt.mp ij))

instance : TotalScalar Float where
  agrees_one := rfl
  le_of_not_lt {x y} x_defined y_defined not_less := by
    obtain ⟨i, x_at, -⟩ := agrees_iff_rank.mp x_defined
    obtain ⟨j, y_at, -⟩ := agrees_iff_rank.mp y_defined
    have not_below : ¬ i < j := fun less => not_less (lt_iff_rank.mpr ⟨i, x_at, j, y_at, less⟩)
    exact le_iff_rank.mpr ⟨j, y_at, i, x_at, not_lt.mp not_below⟩

instance : TransitiveScalar Float where
  agrees_trans {x y z} first second := by
    obtain ⟨i, x_at, y_at⟩ := agrees_iff_rank.mp first
    obtain ⟨j, y_at', z_at⟩ := agrees_iff_rank.mp second
    obtain rfl := Option.mem_unique y_at y_at'
    exact agrees_iff_rank.mpr ⟨i, x_at, z_at⟩

end Float

theorem le_larger {α : Type} [Scalar α] [TotalScalar α] {x y : α} (defined : agrees y y = true) :
    y ≤ larger x y := by
  have refl : y ≤ y :=
    TotalScalar.le_of_not_lt defined defined fun less => OrderedScalar.not_lt_of_lt less less
  unfold larger
  split
  · exact refl
  · next known =>
    split
    · next unknown => simp [isUndefined, defined] at unknown
    · split
      · exact refl
      · next not_less =>
        have x_defined : agrees x x = true := by simpa [isUndefined] using known
        exact TotalScalar.le_of_not_lt x_defined defined not_less

end Scalar

end PromptCanvas

import PromptCanvas.Scalar

set_option autoImplicit false
set_option relaxedAutoImplicit false

namespace PromptCanvas

/-- Finite measurements are defined, and the order contradicts itself nowhere. -/
class LawfulScalar (α : Type) [Scalar α] : Prop where
  agrees_of_isFinite {x : α} : Scalar.isFinite x = true → Scalar.agrees x x = true
  not_lt_of_le {x y : α} : x ≤ y → ¬ y < x

namespace Scalar

section Float

open Float.Model

/-- Magnitudes are compared by exponent, then by mantissa; the other way round the outcome is the
other way round. -/
private theorem magnitude_swap (e e' : Int) (m m' : Nat) :
    (compare e' e).then (compare m' m) = ((compare e e').then (compare m m')).swap := by
  rw [Ordering.swap_then, ← Std.OrientedOrd.eq_swap, ← Std.OrientedOrd.eq_swap]

private theorem magnitude_self (e : Int) (m : Nat) :
    (compare e e).then (compare m m) = .eq := by
  rw [Std.ReflOrd.compare_self, Std.ReflOrd.compare_self]
  rfl

private theorem compare_swap (a b : UnpackedFloat) :
    b.compare a = (a.compare b).map Ordering.swap := by
  cases a with
  | notANumber => cases b <;> rfl
  | infinity s =>
    cases b with
    | infinity s' => cases s <;> cases s' <;> rfl
    | notANumber | zero | finite => cases s <;> rfl
  | zero s =>
    cases b with
    | infinity s' | finite s' => cases s' <;> rfl
    | notANumber | zero => rfl
  | finite s m e _ =>
    cases b with
    | infinity s' => cases s <;> cases s' <;> rfl
    | notANumber | zero => cases s <;> rfl
    | finite s' m' e' _ =>
      have swap := magnitude_swap e e' m m'
      cases s <;> cases s'
      · exact congrArg (fun o => some o.swap) swap
      · rfl
      · rfl
      · exact congrArg some swap

private theorem compare_self {a : UnpackedFloat} (finite : a.isFinite = true) :
    a.compare a = some .eq := by
  cases a with
  | notANumber => cases finite
  | infinity s => cases finite
  | zero s => rfl
  | finite s m e _ =>
    have same := magnitude_self e m
    cases s
    · exact congrArg (fun o => some o.swap) same
    · exact congrArg some same

instance : LawfulScalar Float where
  agrees_of_isFinite {x} finite := by
    have same : x.toModel.unpack.compare x.toModel.unpack = some .eq := compare_self finite
    change (x.toModel.unpack.compare x.toModel.unpack == some .eq) = true
    rw [same]
    rfl
  not_lt_of_le {x y} le lt := by
    have le : (x.toModel.unpack.compare y.toModel.unpack).any (·.isLE) = true :=
      of_decide_eq_true le
    have lt : (y.toModel.unpack.compare x.toModel.unpack == some .lt) = true :=
      of_decide_eq_true lt
    rw [compare_swap, beq_iff_eq] at lt
    cases outcome : x.toModel.unpack.compare y.toModel.unpack with
    | none => simp [outcome] at lt
    | some o => cases o <;> simp [outcome] at le lt

end Float

variable {α : Type} [Scalar α]

theorem larger_cases (x y : α) : larger x y = x ∨ larger x y = y := by
  unfold larger
  split
  · exact .inr rfl
  · split
    · exact .inl rfl
    · split
      · exact .inr rfl
      · exact .inl rfl

theorem larger_larger (x y : α) : larger (larger x y) y = larger x y := by
  rcases larger_cases x y with first | second
  · rw [first, first]
  · rw [second]
    exact (larger_cases y y).elim id id

variable [LawfulScalar α]

private theorem isUndefined_of_isFinite {x : α} (finite : isFinite x = true) :
    isUndefined x = false := by
  rw [isUndefined, LawfulScalar.agrees_of_isFinite finite]
  rfl

theorem larger_of_le {x y : α} (finite : isFinite x = true) (le : y ≤ x) : larger x y = x := by
  rw [larger, isUndefined_of_isFinite finite, if_neg (LawfulScalar.not_lt_of_le le)]
  simp

end Scalar

end PromptCanvas

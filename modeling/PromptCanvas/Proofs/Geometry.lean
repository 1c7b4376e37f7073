import Mathlib.Data.Real.Basic
import Mathlib.Order.Interval.Set.UnorderedInterval
import PromptCanvas.Geometry
import PromptCanvas.Proofs.Scalar.Exact

set_option autoImplicit false
set_option relaxedAutoImplicit false

namespace PromptCanvas

/-- A point lies in the closed rectangle that two points span, whichever corners of it they are. -/
def Point.Between (a b p : Point ℝ) : Prop := p.x ∈ Set.uIcc a.x b.x ∧ p.y ∈ Set.uIcc a.y b.y

namespace Rect

variable {r s t : Rect ℝ} {a b p : Point ℝ}

def IsProper (r : Rect ℝ) : Prop := 0 ≤ r.w ∧ 0 ≤ r.h

private theorem IsProper.le_right (proper : r.IsProper) :
    r.x ≤ r.right := le_add_of_nonneg_right proper.1

private theorem IsProper.le_bottom (proper : r.IsProper) :
    r.y ≤ r.bottom := le_add_of_nonneg_right proper.2

noncomputable def far (r : Rect ℝ) : Point ℝ := ⟨r.right, r.bottom⟩

private theorem contains_iff :
    r.contains p = true ↔ p.x ∈ Set.Icc r.x r.right ∧ p.y ∈ Set.Icc r.y r.bottom := by
  simp [contains, and_assoc]

theorem contains_iff_between (proper : r.IsProper) :
    r.contains p = true ↔ r.origin.Between r.far p := by
  rw [contains_iff, Point.Between, origin, far, Set.uIcc_of_le proper.le_right,
    Set.uIcc_of_le proper.le_bottom]

theorem isProper_ofCorners (a b : Point ℝ) : (ofCorners a b).IsProper := by
  simp only [IsProper, ofCorners, Scalar.abs_eq_exact]
  exact ⟨abs_nonneg _, abs_nonneg _⟩

theorem ofCorners_comm (a b : Point ℝ) : ofCorners a b = ofCorners b a := by
  simp only [ofCorners, Scalar.smaller_eq_exact, Scalar.abs_eq_exact, min_comm, abs_sub_comm]

theorem contains_ofCorners_iff : (ofCorners a b).contains p = true ↔ a.Between b p := by
  simp only [contains_iff, ofCorners, right, bottom, Scalar.smaller_eq_exact, Scalar.abs_eq_exact,
    ← max_sub_min_eq_abs', add_sub_cancel]
  rfl

private theorem exists_mem_Icc_iff {a b c d : ℝ} (first : a ≤ b) (second : c ≤ d) :
    (∃ t, t ∈ Set.Icc a b ∧ t ∈ Set.Icc c d) ↔ a ≤ d ∧ c ≤ b := by
  constructor
  · rintro ⟨t, ⟨le_t, t_le⟩, le_t', t_le'⟩
    exact ⟨le_t.trans t_le', le_t'.trans t_le⟩
  · rintro ⟨le, le'⟩
    exact ⟨max a c, ⟨le_max_left _ _, max_le first le'⟩, le_max_right _ _, max_le le second⟩

theorem intersects_iff (proper : r.IsProper) (proper' : s.IsProper) :
    r.intersects s = true ↔ ∃ p, r.contains p = true ∧ s.contains p = true := by
  have x := exists_mem_Icc_iff proper.le_right proper'.le_right
  have y := exists_mem_Icc_iff proper.le_bottom proper'.le_bottom
  simp only [contains_iff]
  calc r.intersects s = true
      ↔ (r.x ≤ s.right ∧ s.x ≤ r.right) ∧ r.y ≤ s.bottom ∧ s.y ≤ r.bottom := by
        simp [intersects, and_assoc]
    _ ↔ _ := by
        rw [← x, ← y]
        constructor
        · rintro ⟨⟨t, here, there⟩, u, here', there'⟩
          exact ⟨⟨t, u⟩, ⟨here, here'⟩, there, there'⟩
        · rintro ⟨p, ⟨here, here'⟩, there, there'⟩
          exact ⟨⟨p.x, here, there⟩, p.y, here', there'⟩

/-- No edge lies outside of another rectangle. -/
structure Within (r t : Rect ℝ) : Prop where
  left : t.x ≤ r.x
  right : r.right ≤ t.right
  top : t.y ≤ r.y
  bottom : r.bottom ≤ t.bottom

private theorem within_refl (r : Rect ℝ) : r.Within r := ⟨le_rfl, le_rfl, le_rfl, le_rfl⟩

private theorem within_union_iff : (r.union s).Within t ↔ r.Within t ∧ s.Within t := by
  have right : (r.union s).right = max r.right s.right := by
    simp [union, Rect.right, Scalar.larger_eq_exact]
  have bottom : (r.union s).bottom = max r.bottom s.bottom := by
    simp [union, Rect.bottom, Scalar.larger_eq_exact]
  constructor
  · rintro ⟨left', right', top', bottom'⟩
    rw [right, max_le_iff] at right'
    rw [bottom, max_le_iff] at bottom'
    simp only [union, Scalar.smaller_eq_exact, le_min_iff] at left' top'
    exact ⟨⟨left'.1, right'.1, top'.1, bottom'.1⟩, left'.2, right'.2, top'.2, bottom'.2⟩
  · rintro ⟨one, other⟩
    constructor
    · simpa only [union, Scalar.smaller_eq_exact] using le_min one.left other.left
    · rw [right]
      exact max_le one.right other.right
    · simpa only [union, Scalar.smaller_eq_exact] using le_min one.top other.top
    · rw [bottom]
      exact max_le one.bottom other.bottom

/-- The smallest rectangle around some: what is around it is around all of them. -/
def IsHull (r : Rect ℝ) (rs : List (Rect ℝ)) : Prop := ∀ t, r.Within t ↔ ∀ s ∈ rs, s.Within t

theorem IsHull.within {rs : List (Rect ℝ)} (hull : r.IsHull rs) (mem : s ∈ rs) : s.Within r :=
  (hull r).mp r.within_refl s mem

theorem isHull_bounding {rs : List (Rect ℝ)} (some : bounding rs = some r) : r.IsHull rs := by
  have unions : ∀ (rest : List (Rect ℝ)) (first t : Rect ℝ),
      (rest.foldl union first).Within t ↔ ∀ s ∈ first :: rest, s.Within t := by
    intro rest
    induction rest with
    | nil => simp
    | cons second rest ih =>
      intro first t
      rw [List.foldl_cons, ih]
      simp only [List.forall_mem_cons, within_union_iff, and_assoc]
  cases rs with
  | nil => cases some
  | cons first rest =>
    obtain rfl : rest.foldl union first = r := Option.some.inj some
    exact unions rest first

/-- The gap between two rectangles is at least so wide, to the side or in height. -/
def Apart (r s : Rect ℝ) (gap : ℝ) : Prop :=
  r.right + gap ≤ s.x ∨ s.right + gap ≤ r.x ∨ r.bottom + gap ≤ s.y ∨ s.bottom + gap ≤ r.y

theorem Apart.mono {r' s' : Rect ℝ} {gap : ℝ} (apart : r.Apart s gap) (first : r'.Within r)
    (second : s'.Within s) : r'.Apart s' gap := by
  obtain ⟨left, right, top, bottom⟩ := first
  obtain ⟨left', right', top', bottom'⟩ := second
  rcases apart with before | behind | above | below
  · exact .inl (by linarith)
  · exact .inr (.inl (by linarith))
  · exact .inr (.inr (.inl (by linarith)))
  · exact .inr (.inr (.inr (by linarith)))

end Rect

end PromptCanvas

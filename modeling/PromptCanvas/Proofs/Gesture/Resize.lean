import Mathlib.Analysis.InnerProductSpace.PiL2
import Mathlib.Geometry.Euclidean.Angle.Unoriented.Basic
import PromptCanvas.Gesture.Resize
import PromptCanvas.Proofs.Scalar.Exact

/-!
What dragging a corner makes of a box, in exact arithmetic.

A drag asks for a width and a height.  A free box is given them, as far as they are not too short.
A box locked to a ratio is given the one that changes more, and the other follows; a box that would
shrink by that is left alone unless the pointer moves into the cone around the inward diagonal.
In either case the opposite corner stays where it is.
-/

set_option autoImplicit false
set_option relaxedAutoImplicit false

namespace PromptCanvas

namespace Point

noncomputable def plane (p : Point ℝ) : EuclideanSpace ℝ (Fin 2) := !₂[p.x, p.y]

private theorem norm_plane (p : Point ℝ) : ‖p.plane‖ = p.length := by
  simp [EuclideanSpace.norm_eq, plane, length, Scalar.hypot]

private theorem inner_plane (p q : Point ℝ) : inner ℝ p.plane q.plane = p.dot q := by
  simp [plane, dot, PiLp.inner_apply, mul_comm]

private theorem plane_scale (p : Point ℝ) (s : ℝ) : (p.scale s).plane = s • p.plane := by
  ext i
  fin_cases i <;> simp [plane, scale, mul_comm]

private theorem normalize_of_long {p : Point ℝ} (long : negligible < p.length) :
    p.normalize = some (p.scale ‖p.plane‖⁻¹) := by
  simp only [normalize, if_pos long, norm_plane]
  norm_num

private theorem length_pos {p : Point ℝ} (long : negligible < p.length) : 0 < p.length := by
  refine lt_trans ?_ long
  norm_num [negligible]

private theorem dot_directions (p q : Point ℝ) :
    (p.scale ‖p.plane‖⁻¹).dot (q.scale ‖q.plane‖⁻¹) =
      Real.cos (InnerProductGeometry.angle p.plane q.plane) := by
  rw [← inner_plane, plane_scale, plane_scale, InnerProductGeometry.cos_angle,
    real_inner_smul_left, real_inner_smul_right]
  field_simp

end Point

namespace Resize

section Cone

noncomputable def inward (corner : Corner) (baseline : Rect ℝ) : Point ℝ :=
  (corner.anchor baseline).sub (corner.point baseline)

/-- Whether a movement has a direction and keeps within twenty-five degrees of the way from the
corner to the opposite one. -/
def InCone (corner : Corner) (baseline : Rect ℝ) (movement : Point ℝ) : Prop :=
  movement ≠ Point.zero ∧
    InnerProductGeometry.angle movement.plane (inward corner baseline).plane ≤ 25 * Scalar.degree

variable {corner : Corner} {baseline : Rect ℝ} {movement : Point ℝ}

private theorem cosDegrees_le_iff {angle : ℝ} (nonneg : 0 ≤ angle) (le_pi : angle ≤ Real.pi) :
    Scalar.cosDegrees (coneDegrees : ℝ) ≤ Real.cos angle ↔ angle ≤ 25 * Scalar.degree := by
  have opening : (coneDegrees : ℝ) = 25 := by norm_num [coneDegrees]
  have within : 25 * Scalar.degree ∈ Set.Icc 0 Real.pi := by
    rw [Scalar.degree]
    exact ⟨by positivity, by linarith [Real.pi_pos]⟩
  rw [Scalar.cosDegrees_eq_exact, opening]
  exact Real.strictAntiOn_cos.le_iff_ge within ⟨nonneg, le_pi⟩

/-- A box may shrink when the movement and the diagonal have a direction and are close to each
other. -/
private theorem isShrinking_iff :
    isShrinking baseline corner movement = true ↔
      Point.negligible < (inward corner baseline).length ∧
        Point.negligible < movement.length ∧ InCone corner baseline movement := by
  have diagonal : (corner.anchor baseline).sub (corner.point baseline) = inward corner baseline :=
    rfl
  simp only [isShrinking, diagonal]
  by_cases wide : Point.negligible < (inward corner baseline).length
  case neg => simp [Point.normalize, wide]
  by_cases moving : Point.negligible < movement.length
  case neg => simp [Point.normalize, moving]
  have moves : movement ≠ Point.zero := by
    rintro rfl
    refine (Point.length_pos moving).ne' ?_
    norm_num [Point.length, Scalar.hypot, Point.zero]
  simp only [Point.normalize_of_long wide, Point.normalize_of_long moving, Point.dot_directions,
    decide_eq_true_eq, wide, moving, moves, InCone, true_and, ne_eq, not_false_eq_true]
  generalize turn :
    InnerProductGeometry.angle movement.plane (inward corner baseline).plane = angle
  have lower : (-1.0 : ℝ) ≤ Real.cos angle := by linarith [Real.neg_one_le_cos angle]
  have upper : Real.cos angle ≤ (1.0 : ℝ) := by linarith [Real.cos_le_one angle]
  rw [Scalar.clamp_eq_exact lower upper]
  exact cosDegrees_le_iff (turn ▸ InnerProductGeometry.angle_nonneg _ _)
    (turn ▸ InnerProductGeometry.angle_le_pi _ _)

end Cone

section Sides

private theorem minSide_exact : (minSide : ℝ) = 40 := by norm_num [minSide]

private theorem enlarged_eq {w h : ℝ} (wide : 0 < w) (high : 0 < h) :
    enlarged w h = (w * max 1 (max (40 / w) (40 / h)), h * max 1 (max (40 / w) (40 / h))) := by
  simp only [enlarged, minSide_exact, Scalar.larger_eq_exact]
  split
  · next short =>
    have grows : 1 ≤ max (40 / w) (40 / h) :=
      le_max_iff.mpr (short.imp (fun less => (one_le_div wide).mpr less.le)
        fun less => (one_le_div high).mpr less.le)
    rw [max_eq_right grows]
  · next long =>
    rw [not_or, not_lt, not_lt] at long
    have keeps : max (40 / w) (40 / h) ≤ 1 :=
      max_le ((div_le_one wide).mpr long.1) ((div_le_one high).mpr long.2)
    rw [max_eq_left keeps, mul_one, mul_one]

/-- A side that is as long as asked for, or as long as it takes for it and the other one to be long
enough; it is `ratio` times the other one. -/
noncomputable def longEnough (ratio side : ℝ) : ℝ := max side (max 40 (40 * ratio))

private theorem forty_le_longEnough (ratio side : ℝ) :
    40 ≤ longEnough ratio side ∧ 40 * ratio ≤ longEnough ratio side :=
  ⟨le_max_of_le_right (le_max_left _ _), le_max_of_le_right (le_max_right _ _)⟩

private theorem mul_factor (side other : ℝ) :
    max side 1 * max 1 (max (40 / max side 1) (40 / other)) =
      longEnough (max side 1 / other) side := by
  have positive : 0 < max side 1 := lt_max_of_lt_right one_pos
  have small : (1 : ℝ) ≤ max 40 (40 * (max side 1 / other)) := le_max_of_le_left (by norm_num)
  rw [mul_max_of_nonneg _ _ positive.le, mul_max_of_nonneg _ _ positive.le, mul_one,
    mul_div_cancel₀ _ positive.ne', mul_div_assoc', mul_comm _ (40 : ℝ), mul_div_assoc,
    longEnough]
  generalize max 40 (40 * (max side 1 / other)) = least at small ⊢
  rw [max_assoc, max_eq_right small]

/-- The sides in a ratio of which the width is long enough. -/
noncomputable def sidesOfWidth (ratio w : ℝ) : ℝ × ℝ :=
  (longEnough ratio w, longEnough ratio w / ratio)

/-- The sides in a ratio of which the height is long enough. -/
noncomputable def sidesOfHeight (ratio h : ℝ) : ℝ × ℝ :=
  (ratio * longEnough ratio⁻¹ h, longEnough ratio⁻¹ h)

variable {ratio : ℝ}

private theorem enlarged_of_width (kept : 0 < ratio) (w : ℝ) :
    enlarged (max w 1) (max w 1 / ratio) = sidesOfWidth ratio w := by
  have wide : 0 < max w 1 := lt_max_of_lt_right one_pos
  rw [enlarged_eq wide (div_pos wide kept), sidesOfWidth, div_mul_eq_mul_div, mul_factor,
    div_div_cancel₀ wide.ne']

private theorem enlarged_of_height (kept : 0 < ratio) (h : ℝ) :
    enlarged (max h 1 * ratio) (max h 1) = sidesOfHeight ratio h := by
  have high : 0 < max h 1 := lt_max_of_lt_right one_pos
  rw [enlarged_eq (mul_pos high kept) high, sidesOfHeight, max_comm (40 / (max h 1 * ratio)),
    mul_right_comm, mul_factor, div_mul_cancel_left₀ high.ne', mul_comm ratio]

def Fits (ratio : ℝ) (sides : ℝ × ℝ) : Prop :=
  sides.1 = ratio * sides.2 ∧ 40 ≤ sides.1 ∧ 40 ≤ sides.2

private theorem fits_sidesOfWidth (kept : 0 < ratio) (w : ℝ) :
    Fits ratio (sidesOfWidth ratio w) := by
  obtain ⟨wide, high⟩ := forty_le_longEnough ratio w
  exact ⟨(mul_div_cancel₀ _ kept.ne').symm, wide, (le_div_iff₀ kept).mpr high⟩

private theorem fits_sidesOfHeight (kept : 0 < ratio) (h : ℝ) :
    Fits ratio (sidesOfHeight ratio h) := by
  obtain ⟨high, wide⟩ := forty_le_longEnough ratio⁻¹ h
  exact ⟨rfl, (mul_inv_le_iff₀' kept).mp wide, high⟩

end Sides

section Box

noncomputable def area (b : Rect ℝ) : ℝ := b.w * b.h

/-- The side that a drag asks for: the edge that is moved, in the direction of the axis or against
it, follows the pointer. -/
noncomputable def asked (outward : Bool) (side movement : ℝ) : ℝ :=
  side + (if outward then 1 else -1) * movement

/-- The box in a ratio that a drag asks for: the side that changes more is given as asked and the
other one follows, unless one of them would be too short. -/
noncomputable def lockedBox (corner : Corner) (baseline : Rect ℝ) (movement : Point ℝ)
    (ratio : ℝ) : Rect ℝ :=
  let w := asked corner.isRight baseline.w movement.x
  let h := asked corner.isBottom baseline.h movement.y
  boxAt corner (corner.anchor baseline)
    (if |max h 1 - baseline.h| ≤ |max w 1 - baseline.w| then sidesOfWidth ratio w
      else sidesOfHeight ratio h)

/-- What a free drag makes of a box. -/
structure Freely (corner : Corner) (baseline : Rect ℝ) (movement : Point ℝ) (b : Rect ℝ) :
    Prop where
  anchored : corner.anchor b = corner.anchor baseline
  width : b.w = max (asked corner.isRight baseline.w movement.x) 40
  height : b.h = max (asked corner.isBottom baseline.h movement.y) 40

/-- What a drag locked to a ratio makes of a box. -/
structure InRatio (corner : Corner) (baseline : Rect ℝ) (movement : Point ℝ) (ratio : ℝ)
    (b : Rect ℝ) : Prop where
  settled : b = baseline ∨
    corner.anchor b = corner.anchor baseline ∧ b.w = ratio * b.h ∧ 40 ≤ b.w ∧ 40 ≤ b.h ∧
      (area baseline ≤ area b ∨ InCone corner baseline movement)
  grown : area baseline ≤ area (lockedBox corner baseline movement ratio) →
    b = lockedBox corner baseline movement ratio
  shrunk : Point.negligible < (inward corner baseline).length →
    Point.negligible < movement.length → InCone corner baseline movement →
      b = lockedBox corner baseline movement ratio
  refused : area (lockedBox corner baseline movement ratio) < area baseline →
    ¬ InCone corner baseline movement → b = baseline

variable (baseline : Rect ℝ) (corner : Corner) (press pointer : Point ℝ)

private theorem anchor_boxAt (anchor : Point ℝ) (sides : ℝ × ℝ) :
    corner.anchor (boxAt corner anchor sides) = anchor := by
  cases corner <;> simp [boxAt, Corner.anchor, Corner.isRight, Corner.isBottom, Rect.right,
    Rect.bottom]

private theorem edges_apart (outward : Bool) (start side movement : ℝ) :
    (if outward then 1.0 else -1.0) *
        ((if outward then start + side else start) + movement -
          (if outward then start else start + side)) =
      asked outward side movement := by
  cases outward <;> norm_num [asked] <;> ring

private theorem rawWidth_eq (movement : Point ℝ) :
    (if corner.isRight then 1.0 else -1.0) *
        (((corner.point baseline).add movement).x - (corner.anchor baseline).x) =
      asked corner.isRight baseline.w movement.x :=
  edges_apart corner.isRight baseline.x baseline.w movement.x

private theorem rawHeight_eq (movement : Point ℝ) :
    (if corner.isBottom then 1.0 else -1.0) *
        (((corner.point baseline).add movement).y - (corner.anchor baseline).y) =
      asked corner.isBottom baseline.h movement.y :=
  edges_apart corner.isBottom baseline.y baseline.h movement.y

private theorem box_of_unusable {α : Type} [Scalar α] (baseline : Rect α) (corner : Corner)
    (press pointer : Point α) {ratio : α}
    (unusable : Scalar.isFinite ratio = false ∨ ¬ (0.0 : α) < ratio) :
    box baseline corner press pointer (some ratio) = box baseline corner press pointer none := by
  have dropped : usable? (some ratio) = none := by
    rcases unusable with wild | small
    · simp [usable?, wild]
    · simp [usable?, small]
  simp only [box, dropped]
  rfl

private theorem box_free :
    Freely corner baseline (pointer.sub press) (box baseline corner press pointer none) := by
  have shape : box baseline corner press pointer none =
      boxAt corner (corner.anchor baseline)
        (max (asked corner.isRight baseline.w (pointer.sub press).x) 40,
          max (asked corner.isBottom baseline.h (pointer.sub press).y) 40) := by
    simp only [box, usable?, Option.filter_none, rawWidth_eq, rawHeight_eq,
      Scalar.larger_eq_exact, minSide_exact]
  rw [shape]
  exact ⟨anchor_boxAt _ _ _, rfl, rfl⟩

private theorem boxAt_lockedSides {ratio : ℝ} (kept : 0 < ratio) (movement : Point ℝ) :
    boxAt corner (corner.anchor baseline)
        (lockedSides baseline (asked corner.isRight baseline.w movement.x)
          (asked corner.isBottom baseline.h movement.y) ratio) =
      lockedBox corner baseline movement ratio := by
  have one : (1.0 : ℝ) = 1 := by norm_num
  simp only [lockedSides, lockedBox, Scalar.larger_eq_exact, Scalar.abs_eq_exact, one,
    enlarged_of_width kept, enlarged_of_height kept]

private theorem box_locked_eq {ratio : ℝ} (kept : 0 < ratio) :
    box baseline corner press pointer (some ratio) =
      if area (lockedBox corner baseline (pointer.sub press) ratio) < area baseline ∧
          isShrinking baseline corner (pointer.sub press) = false then baseline
        else lockedBox corner baseline (pointer.sub press) ratio := by
  have used : usable? (some ratio) = some ratio := by
    have positive : (0.0 : ℝ) < ratio := by norm_num [kept]
    simp [usable?, positive, Scalar.isFinite]
  rw [← boxAt_lockedSides baseline corner kept]
  simp only [box, used, rawWidth_eq, rawHeight_eq, Bool.and_eq_true, decide_eq_true_eq,
    Bool.not_eq_true']
  rfl

private theorem fits_lockedBox {ratio : ℝ} (kept : 0 < ratio) (movement : Point ℝ) :
    Fits ratio ((lockedBox corner baseline movement ratio).w,
      (lockedBox corner baseline movement ratio).h) := by
  simp only [lockedBox]
  split
  · exact fits_sidesOfWidth kept _
  · exact fits_sidesOfHeight kept _

private theorem box_locked {ratio : ℝ} (kept : 0 < ratio) :
    InRatio corner baseline (pointer.sub press) ratio
      (box baseline corner press pointer (some ratio)) := by
  rw [box_locked_eq baseline corner press pointer kept]
  have anchored := anchor_boxAt corner (corner.anchor baseline)
  obtain ⟨in_ratio, wide, high⟩ := fits_lockedBox baseline corner kept (pointer.sub press)
  constructor
  case settled =>
    split
    · exact .inl rfl
    · next stays =>
      refine .inr ⟨anchored _, in_ratio, wide, high, ?_⟩
      rw [not_and_or, not_lt, Bool.not_eq_false, isShrinking_iff] at stays
      exact stays.imp_right fun shrinks => shrinks.2.2
  case grown => exact fun grows => if_neg fun shrinks => shrinks.1.not_ge grows
  case shrunk =>
    intro wide moving inside
    exact if_neg fun shrinks => Bool.false_ne_true <|
      shrinks.2.symm.trans (isShrinking_iff.mpr ⟨wide, moving, inside⟩)
  case refused =>
    intro smaller outside
    refine if_pos ⟨smaller, Bool.eq_false_iff.mpr fun shrinks => outside ?_⟩
    exact (isShrinking_iff.mp shrinks).2.2

/-- Dragging a corner of a box leaves the opposite corner where it is.  Without a ratio to keep, the
box is as wide and as high as the drag asks, but nowhere shorter than forty.  With one, it is the
box in that ratio; where that is smaller than the box before and the pointer does not move into the
cone around the inward diagonal, it is the box before. -/
theorem box_follows_drag :
    (∀ lock : Option ℝ, (∀ ratio ∈ lock, ratio ≤ 0) →
      Freely corner baseline (pointer.sub press) (box baseline corner press pointer lock)) ∧
    (∀ ratio : ℝ, 0 < ratio →
      InRatio corner baseline (pointer.sub press) ratio
        (box baseline corner press pointer (some ratio))) ∧
    ∀ (α : Type) [Scalar α] (baseline : Rect α) (press pointer : Point α) (ratio : α),
      Scalar.isFinite ratio = false ∨ ¬ (0.0 : α) < ratio →
        box baseline corner press pointer (some ratio) =
          box baseline corner press pointer none := by
  refine ⟨?_, fun ratio => box_locked baseline corner press pointer, ?_⟩
  · rintro (_ | ratio) unusable
    · exact box_free baseline corner press pointer
    · have small : ¬ (0.0 : ℝ) < ratio := by norm_num [unusable ratio rfl]
      rw [box_of_unusable baseline corner press pointer (.inr small)]
      exact box_free baseline corner press pointer
  · intro α _ baseline press pointer ratio
    exact box_of_unusable baseline corner press pointer

end Box

end Resize

end PromptCanvas

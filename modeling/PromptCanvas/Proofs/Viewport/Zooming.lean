import Mathlib.Analysis.SpecialFunctions.Log.Basic
import PromptCanvas.Proofs.Viewport.Moves
import PromptCanvas.Proofs.Viewport.Picture

set_option autoImplicit false
set_option relaxedAutoImplicit false

namespace PromptCanvas

instance : ZoomScalar ℝ where
  agrees_least := decide_eq_true rfl
  least_le_one := by norm_num
  one_le_most := by norm_num

namespace Scalar

private theorem clamp_eq_min_max (x lo hi : ℝ) : clamp x lo hi = min (max x lo) hi := by
  rw [min_comm, min_def_lt, max_def_lt, clamp]

private theorem clamp_mem_Icc (x : ℝ) {lo hi : ℝ} (ordered : lo ≤ hi) :
    clamp x lo hi ∈ Set.Icc lo hi := by
  rw [clamp_eq_min_max]
  exact ⟨le_min (le_max_right x lo) ordered, min_le_right _ _⟩

end Scalar

namespace Viewport

theorem clampZoom_eq_min_max (zoom : ℝ) : clampZoom zoom = min (max zoom 0.05) 3 := by
  have largest : (maxZoom : ℝ) = 3 := by norm_num [maxZoom]
  simp only [clampZoom, Scalar.isUndefined_exact, Bool.false_eq_true, if_false,
    Scalar.clamp_eq_min_max, largest, minZoom]

theorem clampZoom_of_mem {zoom : ℝ} (range : zoom ∈ Set.Icc 0.05 3) : clampZoom zoom = zoom := by
  rw [clampZoom_eq_min_max, max_eq_left range.1, min_eq_left range.2]

theorem InRange.mem_Icc {zoom : ℝ} (range : InRange zoom) : zoom ∈ Set.Icc 0.05 3 := by
  have three : (3.0 : ℝ) = 3 := by norm_num
  exact ⟨range.lower, range.upper.trans_eq three⟩

private theorem InRange.pos {zoom : ℝ} (range : InRange zoom) : 0 < zoom :=
  lt_of_lt_of_le (by norm_num) range.lower

/-- The move zooms around a point of the screen. -/
inductive Move.ZoomsAt {α : Type} (p : Point α) : Move α → Prop
  | zoomAt (zoom : α) : ZoomsAt p (.zoomAt p zoom)
  | zoomStep (factor : α) : ZoomsAt p (.zoomStep p factor)
  | wheel (delta : Point α) : ZoomsAt p (.wheel p delta true)

/-- The move is one step of zooming. -/
inductive Move.IsZoomStep {α : Type} : Move α → Prop
  | zoomStep (p : Point α) (factor : α) : IsZoomStep (.zoomStep p factor)
  | wheel (p delta : Point α) : IsZoomStep (.wheel p delta true)

private theorem Move.ZoomsAt.exists_zoomAt {α : Type} [Scalar α] {p : Point α} {m : Move α}
    (zooms : m.ZoomsAt p) (v : Viewport α) : ∃ zoom, m.apply v = v.zoomAt p zoom := by
  cases zooms with
  | zoomAt zoom => exact ⟨zoom, rfl⟩
  | zoomStep factor => exact ⟨v.zoom * stepFactor factor, rfl⟩
  | wheel delta => exact ⟨v.zoom * stepFactor (Scalar.exp (-delta.y * wheelSensitivity)), rfl⟩

private theorem Move.IsZoomStep.exists_zoomStep {α : Type} [Scalar α] {m : Move α}
    (step : m.IsZoomStep) (v : Viewport α) : ∃ p factor, m.apply v = v.zoomStep p factor := by
  cases step with
  | zoomStep p factor => exact ⟨p, factor, rfl⟩
  | wheel p delta => exact ⟨p, Scalar.exp (-delta.y * wheelSensitivity), rfl⟩

variable {v : Viewport ℝ}

private theorem screenToWorld_zoomAt (v : Viewport ℝ) (p : Point ℝ) (zoom : ℝ) :
    (v.zoomAt p zoom).screenToWorld p = v.screenToWorld p := by
  have zoomed : clampZoom zoom ≠ 0 := (inRange_clampZoom zoom).pos.ne'
  rw [screenToWorld_eq (v.zoomAt p zoom)]
  simp [zoomAt, Point.sub, Point.scale, zoomed]

private theorem screenToWorld_run {p : Point ℝ} {zooms : List (Move ℝ)}
    (around : ∀ m ∈ zooms, m.ZoomsAt p) : (v.run zooms).screenToWorld p = v.screenToWorld p := by
  induction zooms generalizing v with
  | nil => rfl
  | cons m zooms ih =>
    obtain ⟨first, rest⟩ := List.forall_mem_cons.mp around
    obtain ⟨zoom, reached⟩ := first.exists_zoomAt v
    show ((m.apply v).run zooms).screenToWorld p = _
    rw [ih rest, reached, screenToWorld_zoomAt]

private theorem stepFactor_eq_clamp (factor : ℝ) :
    stepFactor factor = Scalar.clamp factor 0.93 1.07 :=
  if_pos rfl

private theorem stepFactor_mem_Icc (factor : ℝ) : stepFactor factor ∈ Set.Icc 0.93 1.07 := by
  rw [stepFactor_eq_clamp]
  exact Scalar.clamp_mem_Icc factor (by norm_num)

private theorem clampZoom_mul {zoom factor : ℝ} (range : zoom ∈ Set.Icc 0.05 3)
    (step : factor ∈ Set.Icc 0.93 1.07) :
    clampZoom (zoom * factor) ∈ Set.Icc (zoom * 0.93) (zoom * 1.07) := by
  obtain ⟨least, most⟩ := range
  obtain ⟨lower, upper⟩ := step
  have positive : 0 ≤ zoom := le_trans (by norm_num) least
  have above := mul_le_mul_of_nonneg_left lower positive
  have below := mul_le_mul_of_nonneg_left upper positive
  rw [clampZoom_eq_min_max]
  constructor
  · refine le_min (above.trans (le_max_left _ _)) ?_
    linarith
  · refine (min_le_left _ _).trans (max_le below ?_)
    linarith

private theorem exists_factor_zoomStep (range : InRange v.zoom) (p : Point ℝ) (factor : ℝ) :
    ∃ applied ∈ Set.Icc 0.93 1.07, (v.zoomStep p factor).zoom = v.zoom * applied := by
  obtain ⟨above, below⟩ := clampZoom_mul range.mem_Icc (stepFactor_mem_Icc factor)
  refine ⟨(v.zoomStep p factor).zoom / v.zoom, ⟨?_, ?_⟩, ?_⟩
  · rwa [le_div_iff₀' range.pos]
  · rwa [div_le_iff₀' range.pos]
  · exact (mul_div_cancel₀ _ range.pos.ne').symm

private theorem exists_wheel_eq (v : Viewport ℝ) (p : Point ℝ) {factor : ℝ}
    (positive : 0 < factor) : ∃ delta, v.wheel p delta true = v.zoomStep p factor := by
  have turning : (wheelSensitivity : ℝ) ≠ 0 := by norm_num [wheelSensitivity]
  refine ⟨⟨0, -(Real.log factor / wheelSensitivity)⟩, ?_⟩
  show v.zoomStep p (Real.exp (-(-(Real.log factor / wheelSensitivity)) * wheelSensitivity)) = _
  rw [neg_neg, div_mul_cancel₀ _ turning, Real.exp_log positive]

/-- In every viewport that some moves lead to, world and screen are pictures of each other, point by
point.  Zooming around a point of the screen, to any levels, in any steps and by the wheel, leaves
the point of the world there where it is.  One step, also of the wheel, which can ask for any
positive factor, changes the zoom by a factor from 0.93 to 1.07, also where a limit cuts it
short. -/
theorem zooming_keeps_the_point (viewW viewH : ℝ) (moves : List (Move ℝ)) :
    let v := (ofSize viewW viewH).run moves
    (∀ q, v.screenToWorld (v.worldToScreen q) = q ∧ v.worldToScreen (v.screenToWorld q) = q) ∧
    (∀ (p : Point ℝ) (zooms : List (Move ℝ)), (∀ m ∈ zooms, m.ZoomsAt p) →
      (v.run zooms).screenToWorld p = v.screenToWorld p) ∧
    (∀ m : Move ℝ, m.IsZoomStep →
      ∃ factor ∈ Set.Icc 0.93 1.07, (m.apply v).zoom = v.zoom * factor) ∧
    ∀ (p : Point ℝ) (factor : ℝ), 0 < factor →
      ∃ delta, v.wheel p delta true = v.zoomStep p factor := by
  intro v
  have range : InRange v.zoom := ((Sound.of_idle inRange_one rfl).run moves).zoom
  have zoomed : v.zoom ≠ 0 := range.pos.ne'
  refine ⟨fun q => ⟨?_, ?_⟩, fun p zooms => screenToWorld_run, fun m step => ?_,
    fun p factor => exists_wheel_eq v p⟩
  · exact screenToWorld_worldToScreen zoomed q
  · exact worldToScreen_screenToWorld zoomed q
  · obtain ⟨p, factor, stepped⟩ := step.exists_zoomStep v
    rw [stepped]
    exact exists_factor_zoomStep range p factor

section Sample

/-- Almost as near as it gets, the view is zoomed around one point: a step that is cut short, a turn
of the wheel, all the way out, and all the way in. -/
theorem owl_stays_under_the_pointer :
    let v := (ofSize 800 600).run [.set 2.9 ⟨10, 0⟩]
    let p : Point ℝ := ⟨300, 145⟩
    let zooms : List (Move ℝ) :=
      [.zoomStep p 1.07, .wheel p ⟨0, 50⟩ true, .zoomAt p 0, .zoomAt p 100]
    v.screenToWorld p = ⟨100, 50⟩ ∧ (v.run zooms).screenToWorld p = ⟨100, 50⟩ ∧
      (v.zoomStep p 1.07).zoom = 3 ∧
      ∃ factor ∈ Set.Icc 0.93 1.07, (v.zoomStep p 1.07).zoom = v.zoom * factor := by
  intro v p zooms
  obtain ⟨-, kept, stepped, -⟩ := zooming_keeps_the_point 800 600 [.set 2.9 ⟨10, 0⟩]
  have zoom : v.zoom = 2.9 := by
    show clampZoom 2.9 = 2.9
    rw [clampZoom_eq_min_max]
    norm_num
  have place : v.screenToWorld p = ⟨100, 50⟩ := by
    rw [screenToWorld_eq, zoom]
    have camera : v.camera = ⟨10, 0⟩ := rfl
    rw [camera]
    norm_num [p]
  have around : ∀ m ∈ zooms, m.ZoomsAt p := by
    simp only [zooms, List.forall_mem_cons]
    exact ⟨.zoomStep _, .wheel _, .zoomAt _, .zoomAt _, List.forall_mem_nil _⟩
  refine ⟨place, (kept p zooms around).trans place, ?_, stepped _ (.zoomStep p 1.07)⟩
  have factor : stepFactor (1.07 : ℝ) = 1.07 := by
    rw [stepFactor_eq_clamp]
    exact Scalar.clamp_eq_exact (by norm_num) le_rfl
  show clampZoom (v.zoom * stepFactor 1.07) = 3
  rw [zoom, factor, clampZoom_eq_min_max]
  norm_num

end Sample

end Viewport

end PromptCanvas

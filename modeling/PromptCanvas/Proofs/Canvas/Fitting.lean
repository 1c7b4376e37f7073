import PromptCanvas.Proofs.Viewport.Transition
import PromptCanvas.Proofs.Canvas.WellFormed

/-!
Fitting the view shows all that it is to show, as large as possible.

The smallest rectangle around the scene is centred in the view, at the largest zoom at which 48
pixels are left on each side.  The way there is an animation; the first tick behind its end is
exact.
-/

set_option autoImplicit false
set_option relaxedAutoImplicit false

namespace PromptCanvas

namespace Rect

variable {r t : Rect ℝ}

private theorem IsFit.one_le (fit : r.IsFit) : 1 ≤ r.w ∧ 1 ≤ r.h := by
  have one : (1.0 : ℝ) = 1 := by norm_num
  rwa [IsFit, one] at fit

private theorem IsFit.mono (fit : r.IsFit) (within : r.Within t) : t.IsFit := by
  obtain ⟨left, right, top, bottom⟩ := within
  obtain ⟨w, h⟩ := fit
  constructor <;> simp only [Rect.right, Rect.bottom] at right bottom <;> linarith

end Rect

namespace Viewport

/-- The picture of a box is in the view, and 48 pixels away from each edge. -/
structure Frames (v : Viewport ℝ) (r : Rect ℝ) : Prop where
  left : 48 ≤ (v.worldToScreen r.origin).x
  right : (v.worldToScreen r.far).x ≤ v.viewW - 48
  top : 48 ≤ (v.worldToScreen r.origin).y
  bottom : (v.worldToScreen r.far).y ≤ v.viewH - 48

/-- The zoom at which a box fills the view but for the margins. -/
noncomputable def zoomToFit (v : Viewport ℝ) (r : Rect ℝ) : ℝ :=
  min ((v.viewW - 96) / r.w) ((v.viewH - 96) / r.h)

/-- A box is shown in the middle of the view as large as possible: with its margins, and at most at
a certain zoom. -/
structure Fits (v : Viewport ℝ) (r : Rect ℝ) (most : ℝ) : Prop where
  frames : v.Frames r
  centred : v.worldToScreen r.center = ⟨v.viewW / 2, v.viewH / 2⟩
  zoom : v.zoom ∈ Set.Icc 0.05 most
  largest : ∀ zoom camera, zoom ≤ most → Frames { v with zoom, camera } r → zoom ≤ v.zoom

variable {v : Viewport ℝ} {r s : Rect ℝ} {most : ℝ}

private theorem frames_iff :
    v.Frames r ↔
      (48 ≤ r.x * v.zoom + v.camera.x ∧ r.right * v.zoom + v.camera.x ≤ v.viewW - 48) ∧
        48 ≤ r.y * v.zoom + v.camera.y ∧ r.bottom * v.zoom + v.camera.y ≤ v.viewH - 48 :=
  ⟨fun ⟨left, right, top, bottom⟩ => ⟨⟨left, right⟩, top, bottom⟩,
    fun ⟨⟨left, right⟩, top, bottom⟩ => ⟨left, right, top, bottom⟩⟩

private theorem Frames.mono (frames : v.Frames r) (zoomed : 0 ≤ v.zoom) (within : s.Within r) :
    v.Frames s := by
  have left := mul_le_mul_of_nonneg_right within.left zoomed
  have right := mul_le_mul_of_nonneg_right within.right zoomed
  have top := mul_le_mul_of_nonneg_right within.top zoomed
  have bottom := mul_le_mul_of_nonneg_right within.bottom zoomed
  obtain ⟨⟨left', right'⟩, top', bottom'⟩ := frames_iff.mp frames
  rw [frames_iff]
  refine ⟨⟨?_, ?_⟩, ?_, ?_⟩ <;> linarith

private theorem le_zoomToFit_iff (fit : r.IsFit) {zoom : ℝ} :
    zoom ≤ v.zoomToFit r ↔ zoom * r.w ≤ v.viewW - 96 ∧ zoom * r.h ≤ v.viewH - 96 := by
  obtain ⟨w, h⟩ := fit.one_le
  rw [zoomToFit, le_min_iff, le_div_iff₀ (by linarith), le_div_iff₀ (by linarith)]

private theorem Frames.zoom_le (frames : v.Frames r) (fit : r.IsFit) : v.zoom ≤ v.zoomToFit r := by
  obtain ⟨⟨left, right⟩, top, bottom⟩ := frames_iff.mp frames
  rw [Rect.right, add_mul] at right
  rw [Rect.bottom, add_mul] at bottom
  rw [le_zoomToFit_iff fit]
  constructor <;> linarith

noncomputable def cameraAt (v : Viewport ℝ) (center : Point ℝ) (zoom : ℝ) : Point ℝ :=
  ⟨v.viewW / 2.0 - center.x * zoom, v.viewH / 2.0 - center.y * zoom⟩

private theorem fits_of_centred (fit : r.IsFit) (enough : 0.05 ≤ v.zoomToFit r)
    (most_large : 0.05 ≤ most)
    (zoom : v.zoom = min (v.zoomToFit r) most) (camera : v.camera = v.cameraAt r.center v.zoom) :
    v.Fits r most := by
  have two : (2.0 : ℝ) = 2 := by norm_num
  obtain ⟨w, h⟩ := (le_zoomToFit_iff fit).mp (zoom.trans_le (min_le_left _ _))
  refine ⟨?_, ?_, ?_, fun other place below frames => ?_⟩
  · rw [frames_iff, camera]
    simp only [cameraAt, Rect.center, Rect.right, Rect.bottom, two, add_mul]
    refine ⟨⟨?_, ?_⟩, ?_, ?_⟩ <;> linarith
  · simp [worldToScreen, Point.scale, Point.add, camera, cameraAt, two]
  · rw [zoom]
    exact ⟨le_min enough most_large, min_le_right _ _⟩
  · rw [zoom]
    exact le_min (frames.zoom_le fit) below

private theorem clampZoom_eq {zoom : ℝ} (enough : 0.05 ≤ zoom) : clampZoom zoom = min zoom 3 := by
  rw [clampZoom_eq_min_max, max_eq_left enough]

private theorem clampZoom_min {zoom : ℝ} (enough : 0.05 ≤ zoom) (within : most ∈ Set.Icc 0.05 3) :
    clampZoom (min zoom most) = min zoom most :=
  clampZoom_of_mem ⟨le_min enough within.1, (min_le_right _ _).trans within.2⟩

noncomputable def mostZoom (capped : Bool) : ℝ := if capped then 1 else 3

private theorem mostZoom_mem (capped : Bool) : mostZoom capped ∈ Set.Icc 0.05 3 := by
  cases capped <;> norm_num [mostZoom]

private theorem fitRect_eq (fit : r.IsFit) (width : 97 ≤ v.viewW) (height : 97 ≤ v.viewH)
    (enough : 0.05 ≤ v.zoomToFit r) (capped : Bool) :
    v.fitRect r Canvas.fitPadding capped =
      (min (v.zoomToFit r) (mostZoom capped),
        v.cameraAt r.center (min (v.zoomToFit r) (mostZoom capped))) := by
  have padding : 2.0 * (Canvas.fitPadding : ℝ) = 96 := by norm_num [Canvas.fitPadding]
  have one : (1.0 : ℝ) = 1 := by norm_num
  have roomW : max (v.viewW - 96) 1 = v.viewW - 96 := max_eq_left (by linarith)
  have roomH : max (v.viewH - 96) 1 = v.viewH - 96 := max_eq_left (by linarith)
  obtain ⟨w, h⟩ := fit.one_le
  have zoom : clampZoom (if capped then min (v.zoomToFit r) 1 else v.zoomToFit r) =
      min (v.zoomToFit r) (mostZoom capped) := by
    cases capped with
    | true => exact clampZoom_min enough (mostZoom_mem true)
    | false => exact clampZoom_eq enough
  rw [← zoom]
  simp only [fitRect, Scalar.larger_eq_exact, Scalar.smaller_eq_exact, padding, one, roomW, roomH,
    max_eq_left w, max_eq_left h]
  rfl

end Viewport

namespace Canvas

def ticked {α : Type} [Scalar α] (c : Canvas α) (times : List Nat) : Canvas α :=
  times.foldl (fun c now => (c.tick now).2) c

private theorem scene_ticked {α : Type} [Scalar α] (c : Canvas α) (times : List Nat) :
    (c.ticked times).scene = c.scene := by
  induction times generalizing c with
  | nil => rfl
  | cons now times ih => exact ih (c.tick now).2

private theorem viewport_ticked (c : Canvas ℝ) (times : List Nat) {later : Nat}
    (late : ∀ a ∈ c.viewport.animation, 0 < a.duration ∧ a.start + a.duration ≤ later) :
    (c.ticked (times ++ [later])).viewport = c.viewport.settled := by
  induction times generalizing c with
  | nil => exact congrArg Prod.snd (Viewport.tick_of_late late)
  | cons now times ih =>
    show ((c.tick now).2.ticked (times ++ [later])).viewport = _
    rw [ih _ fun a moving => late a (Viewport.animation_tick moving)]
    exact c.viewport.settled_tick now

variable {c : Canvas ℝ} {r : Rect ℝ} {now later : Nat}

private theorem viewport_showRect (fit : r.IsFit) (width : 97 ≤ c.viewport.viewW)
    (height : 97 ≤ c.viewport.viewH) (enough : 0.05 ≤ c.viewport.zoomToFit r) (capped : Bool)
    (now : Nat) (times : List Nat) (ended : now + 320 ≤ later) :
    let zoom := min (c.viewport.zoomToFit r) (Viewport.mostZoom capped)
    ((c.showRect r capped now).ticked (times ++ [later])).viewport =
      { c.viewport with animation := none, zoom, camera := c.viewport.cameraAt r.center zoom } := by
  intro zoom
  have clamped : Viewport.clampZoom zoom = zoom :=
    Viewport.clampZoom_min enough (Viewport.mostZoom_mem capped)
  have started : (c.showRect r capped now).viewport =
      { c.viewport with
        animation := some
          { fromZoom := c.viewport.zoom
            fromCamera := c.viewport.camera
            toZoom := zoom
            toCamera := c.viewport.cameraAt r.center zoom
            start := now
            duration := fitDuration } } := by
    rw [showRect, Viewport.fitRect_eq fit width height enough capped]
    show c.viewport.animateTo zoom _ now fitDuration = _
    rw [Viewport.animateTo, clamped]
    rfl
  rw [viewport_ticked, started]
  · rfl
  · intro a moving
    rw [started] at moving
    obtain rfl := Option.some.inj moving
    exact ⟨(by decide : 0 < fitDuration), ended⟩

private theorem fits_showRect (fit : r.IsFit) (width : 97 ≤ c.viewport.viewW)
    (height : 97 ≤ c.viewport.viewH) (enough : 0.05 ≤ c.viewport.zoomToFit r) (capped : Bool)
    (now : Nat) (times : List Nat) (ended : now + 320 ≤ later) :
    let v := ((c.showRect r capped now).ticked (times ++ [later])).viewport
    v = { c.viewport with animation := none, zoom := v.zoom, camera := v.camera } ∧
      v.Fits r (Viewport.mostZoom capped) := by
  intro v
  have arrived : v = _ := viewport_showRect fit width height enough capped now times ended
  rw [arrived]
  exact ⟨rfl, Viewport.fits_of_centred fit enough (Viewport.mostZoom_mem capped).1 rfl rfl⟩

/-- In a view with some room, behind the end of the animation and whatever ticks come before it: the
smallest rectangle around a scene that is not empty is shown in the middle, as large as it can be
with 48 pixels left on each side and three as the largest zoom, and each element keeps these
margins; one element is shown in the same way, with one as the largest zoom.  All this asks that the
smallest zoom is small enough for the rectangle. -/
theorem fit_shows_all_as_large_as_possible (c : Canvas ℝ) (now later : Nat) (times : List Nat)
    (width : 97 ≤ c.viewport.viewW) (height : 97 ≤ c.viewport.viewH)
    (sides : ∀ e ∈ c.scene.elements, e.rect.IsFit) (ended : now + 320 ≤ later) :
    (c.scene.elements ≠ [] →
      ∃ bounds : Rect ℝ, bounds.IsHull c.scene.rects ∧
        (0.05 ≤ c.viewport.zoomToFit bounds →
          let shown := (c.fitContent now).2.ticked (times ++ [later])
          let v := shown.viewport
          shown.scene = c.scene ∧
            v = { c.viewport with animation := none, zoom := v.zoom, camera := v.camera } ∧
            v.Fits bounds 3 ∧ ∀ e ∈ c.scene.elements, v.Frames e.rect)) ∧
    ∀ key e, c.scene.get? key = some e → 0.05 ≤ c.viewport.zoomToFit e.rect →
      let shown := (c.fitResult key now).2.ticked (times ++ [later])
      let v := shown.viewport
      shown.scene = c.scene ∧
        v = { c.viewport with animation := none, zoom := v.zoom, camera := v.camera } ∧
        v.Fits e.rect 1 := by
  constructor
  · intro inhabited
    obtain ⟨first, rest, stack⟩ := List.exists_cons_of_ne_nil inhabited
    obtain ⟨bounds, bounded⟩ : ∃ bounds, c.scene.bounds? = some bounds := by
      rw [Scene.bounds?, Scene.rects, stack]
      exact ⟨_, rfl⟩
    have hull := Rect.isHull_bounding bounded
    have within : ∀ e ∈ c.scene.elements, e.rect.Within bounds := fun e mem =>
      hull.within (List.mem_map_of_mem mem)
    have bottom : first ∈ c.scene.elements := stack ▸ List.mem_cons_self
    have fit : bounds.IsFit := (sides first bottom).mono (within first bottom)
    refine ⟨bounds, hull, fun enough => ?_⟩
    have started : (c.fitContent now).2 = c.showRect bounds false now := by
      rw [fitContent, bounded]
    rw [started]
    obtain ⟨view, fits⟩ := fits_showRect fit width height enough false now times ended
    refine ⟨scene_ticked _ _, view, fits, fun e mem => ?_⟩
    exact fits.frames.mono (le_trans (by norm_num) fits.zoom.1) (within e mem)
  · intro key e found enough
    have fit : e.rect.IsFit := sides e (List.mem_of_find?_eq_some found)
    have started : (c.fitResult key now).2 = c.showRect e.rect true now := by
      rw [fitResult, found]
    rw [started]
    exact ⟨scene_ticked _ _, fits_showRect fit width height enough true now times ended⟩

theorem meadow_is_shown_whole :
    let whole := ((meadow.fitContent 1000).2.ticked [1100, 1010, 1400]).viewport
    let elk := ((meadow.fitResult ⟨"elk"⟩ 2000).2.ticked [2320]).viewport
    (∃ bounds : Rect ℝ, bounds.IsHull meadow.scene.rects ∧ whole.Fits bounds 3) ∧
      (∀ e ∈ meadow.scene.elements, whole.Frames e.rect) ∧ elk.Fits ⟨200, 200, 10, 10⟩ 1 := by
  intro whole elk
  have sides : ∀ e ∈ meadow.scene.elements, e.rect.IsFit := by
    simp only [meadow, Scene.meadow, Rect.IsFit]
    norm_num
  have viewW : meadow.viewport.viewW = 800 := rfl
  have viewH : meadow.viewport.viewH = 600 := rfl
  have width : 97 ≤ meadow.viewport.viewW := by norm_num [viewW]
  have height : 97 ≤ meadow.viewport.viewH := by norm_num [viewH]
  obtain ⟨all, -⟩ := fit_shows_all_as_large_as_possible meadow 1000 1400 [1100, 1010] width height
    sides (by decide)
  obtain ⟨-, one⟩ := fit_shows_all_as_large_as_possible meadow 2000 2320 [] width height sides
    (by decide)
  obtain ⟨bounds, hull, shown⟩ := all (List.cons_ne_nil _ _)
  have enough : 0.05 ≤ meadow.viewport.zoomToFit bounds := by
    have inside : bounds.Within ⟨0, 0, 210, 210⟩ := by
      refine (hull _).mpr ?_
      simp only [meadow, Scene.meadow, Scene.rects, List.map_cons, List.map_nil,
        List.forall_mem_cons]
      refine ⟨?_, ?_, ?_, List.forall_mem_nil _⟩ <;>
        constructor <;> norm_num [Rect.right, Rect.bottom]
    have fit : bounds.IsFit :=
      (sides _ List.mem_cons_self).mono (hull.within List.mem_cons_self)
    obtain ⟨left, right, top, bottom⟩ := inside
    simp only [Rect.right, Rect.bottom] at left right top bottom
    rw [Viewport.le_zoomToFit_iff fit, viewW, viewH]
    constructor <;> linarith
  have enough_elk : 0.05 ≤ meadow.viewport.zoomToFit ⟨200, 200, 10, 10⟩ := by
    norm_num [Viewport.zoomToFit, viewW, viewH]
  obtain ⟨-, -, fits, framed⟩ := shown enough
  obtain ⟨-, -, elk_fits⟩ := one ⟨"elk"⟩ _ rfl enough_elk
  exact ⟨⟨bounds, hull, fits⟩, framed, elk_fits⟩

end Canvas

end PromptCanvas

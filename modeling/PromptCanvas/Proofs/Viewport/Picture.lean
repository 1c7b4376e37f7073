import PromptCanvas.Proofs.Geometry
import PromptCanvas.Canvas

set_option autoImplicit false
set_option relaxedAutoImplicit false

namespace PromptCanvas

namespace Viewport

variable {v : Viewport ℝ} {r : Rect ℝ} {a b p : Point ℝ}

def Shows (v : Viewport ℝ) (r : Rect ℝ) (p : Point ℝ) : Prop :=
  (v.worldToScreen r.origin).Between (v.worldToScreen r.far) p

theorem screenToWorld_eq (v : Viewport ℝ) (p : Point ℝ) :
    v.screenToWorld p = ⟨(p.x - v.camera.x) / v.zoom, (p.y - v.camera.y) / v.zoom⟩ := by
  have one : (1.0 : ℝ) = 1 := by norm_num
  simp only [screenToWorld, Point.scale, Point.sub, one, mul_one_div]

theorem screenDeltaToWorld_eq (v : Viewport ℝ) (d : Point ℝ) :
    v.screenDeltaToWorld d = ⟨d.x / v.zoom, d.y / v.zoom⟩ := by
  have one : (1.0 : ℝ) = 1 := by norm_num
  simp only [screenDeltaToWorld, Point.scale, one, mul_one_div]

theorem worldToScreen_screenToWorld (zoomed : v.zoom ≠ 0) (p : Point ℝ) :
    v.worldToScreen (v.screenToWorld p) = p := by
  rw [screenToWorld_eq]
  simp [worldToScreen, Point.scale, Point.add, zoomed]

theorem screenToWorld_worldToScreen (zoomed : v.zoom ≠ 0) (p : Point ℝ) :
    v.screenToWorld (v.worldToScreen p) = p := by
  rw [screenToWorld_eq]
  simp [worldToScreen, Point.scale, Point.add, zoomed]

theorem between_screenToWorld_iff (zoomed : 0 < v.zoom) :
    (v.screenToWorld a).Between (v.screenToWorld b) (v.screenToWorld p) ↔ a.Between b p := by
  simp only [screenToWorld_eq, Point.Between, Set.mem_uIcc, div_le_div_iff_of_pos_right zoomed,
    sub_le_sub_iff_right]

theorem shows_iff (zoomed : 0 < v.zoom) (proper : r.IsProper) :
    v.Shows r p ↔ r.contains (v.screenToWorld p) = true := by
  rw [Rect.contains_iff_between proper, Shows, ← between_screenToWorld_iff zoomed,
    screenToWorld_worldToScreen zoomed.ne', screenToWorld_worldToScreen zoomed.ne']

end Viewport

section Sample

noncomputable def Scene.meadow : Scene ℝ :=
  ⟨[⟨⟨"fox"⟩, ⟨0, 0, 20, 20⟩, none, .shape .rect "red" ""⟩,
    ⟨⟨"owl"⟩, ⟨45, 30, 20, 20⟩, none, .shape .circle "grey" ""⟩,
    ⟨⟨"elk"⟩, ⟨200, 200, 10, 10⟩, none, .shape .star "brown" ""⟩], 1⟩

noncomputable def Viewport.near : Viewport ℝ :=
  { ofSize 800 600 with zoom := 2.0, camera := ⟨10, 0⟩ }

theorem Viewport.near_shows_iff {r : Rect ℝ} {p : Point ℝ} :
    near.Shows r p ↔
      p.x ∈ Set.uIcc (r.x * 2 + 10) (r.right * 2 + 10) ∧
        p.y ∈ Set.uIcc (r.y * 2) (r.bottom * 2) := by
  simp only [Shows, Point.Between, worldToScreen, near, Rect.origin, Rect.far, Point.scale,
    Point.add]
  norm_num

noncomputable def Canvas.meadow : Canvas ℝ :=
  { Canvas.ofSize 800 600 with
    scene := Scene.meadow, selection := ⟨[⟨"elk"⟩, ⟨"fox"⟩]⟩, viewport := Viewport.near }

theorem Canvas.meadow_zoomed : 0 < meadow.viewport.zoom := by norm_num [meadow, Viewport.near]

end Sample

end PromptCanvas

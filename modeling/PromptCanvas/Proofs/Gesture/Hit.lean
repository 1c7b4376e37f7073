import PromptCanvas.Proofs.Viewport.Picture

set_option autoImplicit false
set_option relaxedAutoImplicit false

namespace PromptCanvas

private theorem Corner.mem_all (corner : Corner) : corner ∈ all := by
  cases corner <;> decide

private theorem Selection.single?_eq_some_iff {selection : Selection} {key : Key} :
    selection.single? = some key ↔ selection.keys = [key] := by
  unfold single?
  split
  · next other alone => simp [alone]
  · next several => exact ⟨nofun, fun alone => absurd alone (several key)⟩

namespace Hit

/-- Just one element is selected, and a corner of its picture is within ten pixels. -/
def OnHandle (scene : Scene ℝ) (selection : Selection) (viewport : Viewport ℝ) (p : Point ℝ) :
    Prop :=
  ∃ key e corner, selection.keys = [key] ∧ scene.get? key = some e ∧
    ((viewport.worldToScreen (Corner.point corner e.rect)).sub p).length ≤ 10.0

/-- No handle is near, and the picture of the element of a key is on top. -/
def OnElement (scene : Scene ℝ) (selection : Selection) (viewport : Viewport ℝ) (p : Point ℝ)
    (key : Key) : Prop :=
  ¬ OnHandle scene selection viewport p ∧
    ∃ below e above, scene.elements = below ++ e :: above ∧ e.key = key ∧
      viewport.Shows e.rect p ∧ ∀ other ∈ above, ¬ viewport.Shows other.rect p

/-- No handle is near, and no picture of an element is there. -/
def OnNothing (scene : Scene ℝ) (selection : Selection) (viewport : Viewport ℝ) (p : Point ℝ) :
    Prop :=
  ¬ OnHandle scene selection viewport p ∧ ∀ e ∈ scene.elements, ¬ viewport.Shows e.rect p

variable {scene : Scene ℝ} {selection : Selection} {viewport : Viewport ℝ} {p : Point ℝ} {key : Key}

private theorem corner?_eq_none_iff {r : Rect ℝ} :
    corner? viewport r p = none ↔
      ∀ corner : Corner, ¬ ((viewport.worldToScreen (corner.point r)).sub p).length ≤ 10.0 := by
  rw [corner?, List.find?_eq_none, handleRadius]
  simp only [Corner.mem_all, true_implies, decide_eq_true_eq]

private theorem handle?_eq_none_iff :
    handle? scene selection viewport p = none ↔ ¬ OnHandle scene selection viewport p := by
  have chain : handle? scene selection viewport p = none ↔
      ∀ key, selection.single? = some key → ∀ e, scene.get? key = some e →
        corner? viewport e.rect p = none := by
    simp only [handle?, bind, pure, Option.bind_eq_none_iff, reduceCtorEq, imp_false,
      ← Option.eq_none_iff_forall_not_mem, ← Option.mem_def]
  rw [chain]
  simp only [corner?_eq_none_iff, Selection.single?_eq_some_iff, OnHandle, not_exists, not_and]
  exact ⟨fun far key e corner alone found => far key alone e found corner,
    fun far key alone e found corner => far key e corner alone found⟩

private theorem containsPoint_iff {e : Element ℝ} (zoomed : 0 < viewport.zoom)
    (proper : e.rect.IsProper) :
    e.containsPoint (viewport.screenToWorld p) = true ↔ viewport.Shows e.rect p :=
  (Viewport.shows_iff zoomed proper).symm

private theorem elementAt?_eq_some_iff {e : Element ℝ} (zoomed : 0 < viewport.zoom)
    (proper : ∀ e ∈ scene.elements, e.rect.IsProper) :
    scene.elementAt? (viewport.screenToWorld p) = some e ↔
      ∃ below above, scene.elements = below ++ e :: above ∧
        viewport.Shows e.rect p ∧ ∀ other ∈ above, ¬ viewport.Shows other.rect p := by
  have shows_iff {other : Element ℝ} (mem : other ∈ scene.elements) :=
    containsPoint_iff (p := p) zoomed (proper other mem)
  rw [Scene.elementAt?, List.find?_eq_some_iff_append]
  constructor
  · rintro ⟨on, above, below, stack, passed⟩
    have stack : scene.elements = below.reverse ++ e :: above.reverse := by
      simpa using congrArg List.reverse stack
    refine ⟨below.reverse, above.reverse, stack, (shows_iff (by simp [stack])).mp on, ?_⟩
    intro other mem
    have missed : ¬ other.containsPoint (viewport.screenToWorld p) = true := by
      simpa using passed other (List.mem_reverse.mp mem)
    rwa [shows_iff (by simp [stack, List.mem_reverse.mp mem])] at missed
  · rintro ⟨below, above, stack, on, uncovered⟩
    refine ⟨(shows_iff (by simp [stack])).mpr on, above.reverse, below.reverse, by simp [stack], ?_⟩
    intro other mem
    have higher : other ∈ above := List.mem_reverse.mp mem
    have missed := uncovered other higher
    rw [← shows_iff (by simp [stack, higher])] at missed
    simpa using missed

private theorem elementAt?_eq_none_iff (zoomed : 0 < viewport.zoom)
    (proper : ∀ e ∈ scene.elements, e.rect.IsProper) :
    scene.elementAt? (viewport.screenToWorld p) = none ↔
      ∀ e ∈ scene.elements, ¬ viewport.Shows e.rect p := by
  simp only [Scene.elementAt?, List.find?_eq_none, List.mem_reverse]
  exact forall₂_congr fun e mem => not_congr (containsPoint_iff zoomed (proper e mem))

theorem test_eq_element_iff (zoomed : 0 < viewport.zoom)
    (proper : ∀ e ∈ scene.elements, e.rect.IsProper) :
    test scene selection viewport p = .element key ↔ OnElement scene selection viewport p key := by
  rw [OnElement, ← handle?_eq_none_iff, test]
  cases handle? scene selection viewport p with
  | some handle => simp
  | none =>
    simp only [true_and]
    constructor
    · intro met
      split at met
      · next e found =>
        obtain ⟨below, above, rest⟩ := (elementAt?_eq_some_iff zoomed proper).mp found
        exact ⟨below, e, above, rest.1, element.inj met, rest.2⟩
      · cases met
    · rintro ⟨below, e, above, stack, rfl, on⟩
      rw [(elementAt?_eq_some_iff zoomed proper).mpr ⟨below, above, stack, on⟩]

theorem test_eq_empty_iff (zoomed : 0 < viewport.zoom)
    (proper : ∀ e ∈ scene.elements, e.rect.IsProper) :
    test scene selection viewport p = .empty ↔ OnNothing scene selection viewport p := by
  rw [OnNothing, ← handle?_eq_none_iff, ← elementAt?_eq_none_iff zoomed proper, test]
  cases handle? scene selection viewport p with
  | some handle => simp
  | none => cases scene.elementAt? (viewport.screenToWorld p) <;> simp

end Hit

end PromptCanvas

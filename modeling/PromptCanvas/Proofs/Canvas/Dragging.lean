import Mathlib.Data.List.Induction
import Mathlib.Data.Real.Basic
import PromptCanvas.Proofs.Canvas.Contents
import PromptCanvas.Proofs.Canvas.Gestures
import PromptCanvas.Proofs.Canvas.WellFormed
import PromptCanvas.Proofs.Gesture.Hit

set_option autoImplicit false
set_option relaxedAutoImplicit false

namespace PromptCanvas

private theorem Rect.IsFit.isProper {r : Rect ℝ} (fit : r.IsFit) : r.IsProper := by
  obtain ⟨w, h⟩ := fit
  constructor <;> norm_num at w h <;> linarith

/-- The same element, further to the right and further down. -/
def Element.shifted {α : Type} [Scalar α] (e : Element α) (d : Point α) : Element α :=
  e.movedTo (e.rect.origin.add d)

namespace Scene

variable {α : Type} [Scalar α] {s : Scene α} {keys : List Key} {key : Key} {d : Point α}

/-- The elements of some keys shifted, each in its place of the stack; the others as they are. -/
def shifted (s : Scene α) (keys : List Key) (d : Point α) : Scene α :=
  { s with elements := s.elements.map fun e => if e.key ∈ keys then e.shifted d else e }

private theorem keys_shifted (s : Scene α) (keys : List Key) (d : Point α) :
    (s.shifted keys d).keys = s.keys := by
  simp only [Scene.keys, shifted, List.map_map]
  refine List.map_congr_left fun e _ => ?_
  by_cases chosen : e.key ∈ keys <;> simp [chosen, Element.shifted, Element.movedTo]

private theorem shifted_concat_of_none (none : s.get? key = none) :
    s.shifted (keys ++ [key]) d = s.shifted keys d := by
  have others : ∀ e ∈ s.elements, e.key ≠ key := by simpa [get?] using none
  refine congrArg (fun elements => { s with elements }) (List.map_congr_left fun e mem => ?_)
  simp [others e mem]

private theorem shifted_concat_of_some {e : Element α} (nodup : s.keys.Nodup)
    (found : s.get? key = some e) :
    s.shifted (keys ++ [key]) d =
      (s.shifted keys d).modify key fun other => other.movedTo (e.rect.origin.add d) := by
  have elements : ((s.shifted keys d).modify key _).elements = _ :=
    elements_modify (by rwa [keys_shifted]) fun other => other.movedTo (e.rect.origin.add d)
  refine congrArg (fun elements => { s with elements }) (Eq.trans ?_ elements.symm)
  rw [shifted, List.map_map]
  refine List.map_congr_left fun other mem => ?_
  by_cases here : other.key = key
  · subst here
    obtain rfl : other = e := Option.some.inj ((get?_of_mem nodup mem).symm.trans found)
    by_cases chosen : other.key ∈ keys <;> simp [chosen, Element.shifted, Element.movedTo]
  · by_cases chosen : other.key ∈ keys <;>
      simp [here, chosen, Element.shifted, Element.movedTo]

end Scene

namespace Canvas

section Shift

variable {α : Type}

private theorem origins_concat (s : Scene α) (keys : List Key) (key : Key) :
    origins s ⟨keys ++ [key]⟩ =
      origins s ⟨keys⟩ ++ ((s.get? key).map fun e => (key, e.rect.origin)).toList := by
  rw [origins, List.filterMap_append, origins]
  cases found : s.get? key <;> simp [found]

variable [Scalar α] {s : Scene α}

private theorem shiftAll_origins (nodup : s.keys.Nodup) (selection : Selection) (d : Point α) :
    shiftAll s (origins s selection) d = s.shifted selection.keys d := by
  obtain ⟨keys⟩ := selection
  induction keys using List.reverseRecOn with
  | nil => simp [origins, shiftAll, Scene.shifted]
  | append_singleton keys key ih =>
    rw [origins_concat, shiftAll, List.foldl_append]
    show List.foldl _ (shiftAll s (origins s ⟨keys⟩) d) _ = _
    rw [ih]
    cases found : s.get? key with
    | none => exact (Scene.shifted_concat_of_none found).symm
    | some e => exact (Scene.shifted_concat_of_some nodup found).symm

private theorem keys_pressed (selection : Selection) (key : Key) (additive : Bool) :
    (pressed selection key additive).keys =
      if key ∈ selection.keys then selection.keys
      else if additive then selection.keys ++ [key] else [key] := by
  by_cases old : key ∈ selection.keys
  · simp [pressed, Selection.contains, old]
  · cases additive <;> simp [pressed, Selection.append, Selection.contains, Selection.only, old]

private theorem touch_down_of_hit {c : Canvas α} {down : Touch α} {key : Key}
    (free : down.modifiers.hand = false)
    (hit : Hit.test c.scene c.selection c.viewport down.position = .element key) :
    let selection := pressed c.selection key down.modifiers.additive
    c.touch .down down =
      { c with selection, gesture := .dragging down.position (origins c.scene selection) } := by
  simp only [touch, handle, respond, pointer, press, free, hit]
  rfl

private theorem foldl_move_of_idle {c : Canvas α} (idle : c.gesture = .idle)
    (moves : List (Touch α)) : moves.foldl (fun c t => c.touch .move t) c = c := by
  have still : ∀ t : Touch α, c.touch .move t = c := by
    obtain ⟨scene, selection, viewport, gesture, frames⟩ := c
    obtain rfl : gesture = .idle := idle
    exact fun t => rfl
  induction moves with
  | nil => rfl
  | cons t rest ih => rw [List.foldl_cons, still, ih]

end Shift

private theorem shifted_zero (s : Scene ℝ) (keys : List Key) : s.shifted keys ⟨0, 0⟩ = s := by
  have same : ∀ e : Element ℝ, e.shifted ⟨0, 0⟩ = e := fun e => by
    simp [Element.shifted, Element.movedTo, Rect.origin, Point.add]
  simp [Scene.shifted, same]

noncomputable def wayOf (c : Canvas ℝ) (down : Touch ℝ) (moves : List (Touch ℝ)) : Point ℝ :=
  let m := (moves.getLastD down).position
  ⟨(m.x - down.position.x) / c.viewport.zoom, (m.y - down.position.y) / c.viewport.zoom⟩

private theorem follow_of_hit {c : Canvas ℝ} {down : Touch ℝ} {key : Key}
    (nodup : c.scene.keys.Nodup) (free : down.modifiers.hand = false)
    (hit : Hit.test c.scene c.selection c.viewport down.position = .element key)
    (moves : List (Touch ℝ)) :
    let selection := pressed c.selection key down.modifiers.additive
    c.follow down moves =
      { c with
        scene := c.scene.shifted selection.keys (c.wayOf down moves)
        selection
        gesture := .dragging down.position (origins c.scene selection) } := by
  intro selection
  have begun := touch_down_of_hit free hit
  obtain rfl | ⟨earlier, last, rfl⟩ := List.eq_nil_or_concat' moves
  · have nowhere : c.wayOf down [] = ⟨0, 0⟩ := by simp [wayOf]
    rw [nowhere, shifted_zero]
    exact begun
  · have still : (c.touch .down down).isPanning = false := (isPanning_press c down).trans free
    rw [follow_eq_of_not_panning c down last earlier still, follow, begun]
    have way : c.wayOf down (earlier ++ [last]) =
        c.viewport.screenDeltaToWorld (last.position.sub down.position) := by
      simp [wayOf, Viewport.screenDeltaToWorld_eq, Point.sub]
    rw [way, ← shiftAll_origins nodup]
    rfl

/-- A drag begins on an element, and the pointer goes anywhere.  The press leaves the selection
alone if the element is selected; otherwise it selects the element alone, or adds it.  Whenever the
pointer moved, the selected elements are as far from where they were as the pointer is from the
press, and this is all that is changed: nothing at all if the pointer is back.  The release ends the
drag, and moves behind it do nothing. -/
theorem drag_moves_the_selection_as_one (c : Canvas ℝ) (down : Touch ℝ) (key : Key)
    (fit : c.scene.Fit) (zoomed : 0 < c.viewport.zoom) (free : down.modifiers.hand = false)
    (on : Hit.OnElement c.scene c.selection c.viewport down.position key) :
    let chosen := (c.touch .down down).selection
    (chosen.keys =
      if key ∈ c.selection.keys then c.selection.keys
      else if down.modifiers.additive then c.selection.keys ++ [key] else [key]) ∧
    ∀ moves : List (Touch ℝ),
      let held := c.follow down moves
      held =
        { c with
          scene := c.scene.shifted chosen.keys (c.wayOf down moves)
          selection := chosen
          gesture := held.gesture } ∧
      ((moves.getLastD down).position = down.position → held.scene = c.scene) ∧
      ∀ up : Touch ℝ,
        let after := c.stroke down moves up
        after = { held with gesture := .idle } ∧
          ∀ later : List (Touch ℝ), later.foldl (fun c t => c.touch .move t) after = after := by
  have proper : ∀ e ∈ c.scene.elements, e.rect.IsProper := fun e mem => (fit.sides e mem).isProper
  have hit := (Hit.test_eq_element_iff zoomed proper).mpr on
  have chosen : (c.touch .down down).selection = pressed c.selection key down.modifiers.additive :=
    congrArg Canvas.selection (touch_down_of_hit free hit)
  rw [chosen]
  refine ⟨keys_pressed _ _ _, fun moves => ?_⟩
  have held := follow_of_hit fit.keys free hit moves
  have after (up : Touch ℝ) :
      c.stroke down moves up = { c.follow down moves with gesture := .idle } := by
    rw [stroke, held]
    rfl
  refine ⟨?_, fun back => ?_, fun up => ⟨after up, fun later => ?_⟩⟩
  · rw [held]
  · have nowhere : c.wayOf down moves = ⟨0, 0⟩ := by simp only [wayOf, back, sub_self, zero_div]
    rw [held, nowhere, shifted_zero]
  · exact foldl_move_of_idle (by rw [after]) later

theorem fox_and_elk_go_together :
    let down : Touch ℝ := ⟨⟨20, 20⟩, Modifiers.none⟩
    let still : Touch ℝ := ⟨⟨26, 10⟩, Modifiers.none⟩
    let after := meadow.stroke down [⟨⟨500, 500⟩, Modifiers.none⟩, still] still
    Hit.OnElement meadow.scene meadow.selection meadow.viewport down.position ⟨"fox"⟩ ∧
      after.scene.rects = [⟨3, -5, 20, 20⟩, ⟨45, 30, 20, 20⟩, ⟨203, 195, 10, 10⟩] := by
  intro down still after
  have fit : meadow.scene.Fit := by
    refine ⟨by decide, ?_⟩
    simp only [meadow, Scene.meadow, Rect.IsFit]
    norm_num
  have on : Hit.OnElement meadow.scene meadow.selection meadow.viewport down.position ⟨"fox"⟩ := by
    refine ⟨by simp [Hit.OnHandle, meadow], [], _, _, rfl, rfl, ?_⟩
    simp only [meadow, Scene.meadow, Viewport.near_shows_iff, Rect.right, Rect.bottom,
      Set.mem_uIcc, down]
    norm_num
  obtain ⟨chosen, drawn⟩ := drag_moves_the_selection_as_one meadow down ⟨"fox"⟩ fit
    meadow_zoomed rfl on
  have kept : (meadow.touch .down down).selection.keys = [⟨"elk"⟩, ⟨"fox"⟩] := chosen
  obtain ⟨held, -, released⟩ := drawn [⟨⟨500, 500⟩, Modifiers.none⟩, still]
  refine ⟨on, ?_⟩
  rw [show after = _ from (released still).1, held, kept]
  simp only [wayOf, meadow, Scene.meadow, Viewport.near, Scene.shifted, Scene.rects,
    Element.shifted, Element.movedTo, Rect.origin, Point.add, down, still]
  norm_num
  rw [if_neg (by decide)]

end Canvas

end PromptCanvas

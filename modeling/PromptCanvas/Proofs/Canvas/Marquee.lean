import Mathlib.Data.Real.Basic
import PromptCanvas.Proofs.Canvas.Gestures
import PromptCanvas.Proofs.Gesture.Hit

set_option autoImplicit false
set_option relaxedAutoImplicit false

namespace PromptCanvas

private theorem Selection.keys_appendAll {more : List Key} (s : Selection) (nodup : more.Nodup) :
    (s.appendAll more).keys = s.keys ++ more.filter fun key => key ∉ s.keys := by
  induction more generalizing s with
  | nil => exact (List.append_nil s.keys).symm
  | cons key rest ih =>
    obtain ⟨alone, nodup⟩ := List.nodup_cons.mp nodup
    show ((s.append key).appendAll rest).keys = _
    rw [ih _ nodup]
    by_cases old : key ∈ s.keys
    · simp [append, contains, old]
    · have added : (s.append key).keys = s.keys ++ [key] := by simp [append, contains, old]
      have others : rest.filter (fun k => k ∉ s.keys ++ [key]) = rest.filter (· ∉ s.keys) :=
        List.filter_congr fun k mem => by
          have ne : k ≠ key := fun same => alone (same ▸ mem)
          simp [ne]
      rw [added, others, List.filter_cons_of_pos (by simpa using old), List.append_assoc,
        List.singleton_append]

/-- The picture of a box has a point in the rectangle that two points of the screen span. -/
def Viewport.Touches (v : Viewport ℝ) (p q : Point ℝ) (r : Rect ℝ) : Prop :=
  ∃ s, v.Shows r s ∧ p.Between q s

private theorem Viewport.touches_iff {v : Viewport ℝ} {r : Rect ℝ} (zoomed : 0 < v.zoom)
    (proper : r.IsProper) (p q : Point ℝ) :
    v.Touches p q r ↔
      r.intersects (Rect.ofCorners (v.screenToWorld p) (v.screenToWorld q)) = true := by
  rw [Rect.intersects_iff proper (Rect.isProper_ofCorners _ _)]
  simp only [Touches, shows_iff zoomed proper, Rect.contains_ofCorners_iff,
    ← between_screenToWorld_iff zoomed (a := p)]
  constructor
  · rintro ⟨s, met⟩
    exact ⟨v.screenToWorld s, met⟩
  · rintro ⟨w, met⟩
    refine ⟨v.worldToScreen w, ?_⟩
    rwa [screenToWorld_worldToScreen zoomed.ne']

def Point.IsAway (p q : Point ℝ) : Prop := 6 ≤ |p.x - q.x| ∨ 6 ≤ |p.y - q.y|

namespace Canvas

open Classical in
/-- The keys of the elements whose pictures meet the rectangle that two points of the screen span,
from bottom to top. -/
noncomputable def touched (c : Canvas ℝ) (p q : Point ℝ) : List Key :=
  (c.scene.elements.filter fun e => c.viewport.Touches p q e.rect).map Element.key

private theorem isClick_iff (p q : Point ℝ) : isClick p q = true ↔ ¬ p.IsAway q := by
  have slop : (clickSlop : ℝ) = 6 := by norm_num [clickSlop]
  simp [isClick, Rect.ofCorners, slop, Scalar.abs_eq_exact, Point.IsAway]

section Stroke

variable {c : Canvas ℝ} {down : Touch ℝ}

private theorem keysIntersecting_eq_touched (zoomed : 0 < c.viewport.zoom)
    (proper : ∀ e ∈ c.scene.elements, e.rect.IsProper) (p q : Point ℝ) :
    c.scene.keysIntersecting
        (Rect.ofCorners (c.viewport.screenToWorld p) (c.viewport.screenToWorld q)) =
      c.touched p q := by
  refine congrArg (List.map Element.key) (List.filter_congr fun e mem => ?_)
  classical
  rw [Bool.eq_iff_iff, decide_eq_true_eq]
  exact (Viewport.touches_iff zoomed (proper e mem) p q).symm

private theorem follow_of_onNothing (zoomed : 0 < c.viewport.zoom)
    (proper : ∀ e ∈ c.scene.elements, e.rect.IsProper) (free : down.modifiers.hand = false)
    (bare : Hit.OnNothing c.scene c.selection c.viewport down.position) (moves : List (Touch ℝ)) :
    ∃ current, c.follow down moves =
      { c with gesture := .marquee down.position current down.modifiers.additive } := by
  have drawn : ∀ current, ∃ last,
      moves.foldl (fun c t => c.touch .move t)
          { c with gesture := .marquee down.position current down.modifiers.additive } =
        { c with gesture := .marquee down.position last down.modifiers.additive } := by
    induction moves with
    | nil => exact fun current => ⟨current, rfl⟩
    | cons t rest ih => exact fun _ => ih t.position
  have missed := (Hit.test_eq_empty_iff zoomed proper).mpr bare
  have begun : c.touch .down down =
      { c with gesture := .marquee down.position down.position down.modifiers.additive } := by
    simp only [touch, handle, respond, pointer, press, free, missed]
    rfl
  rw [follow, begun]
  exact drawn down.position

private theorem handle_up_of_onNothing (down : Touch ℝ) (zoomed : 0 < c.viewport.zoom)
    (proper : ∀ e ∈ c.scene.elements, e.rect.IsProper) (free : down.modifiers.hand = false)
    (bare : Hit.OnNothing c.scene c.selection c.viewport down.position) (moves : List (Touch ℝ))
    (up : Touch ℝ) :
    let selection :=
      if isClick down.position up.position then
        if down.modifiers.additive then c.selection else Selection.empty
      else c.marqueeSelection down.position up.position down.modifiers.additive
    (c.follow down moves).handle (.pointer .up up.position up.modifiers) =
      (.ofSelection (selection ≠ c.selection), { c with selection, gesture := .idle }) := by
  obtain ⟨current, drawn⟩ := follow_of_onNothing zoomed proper free bare moves
  rw [drawn]
  rfl

private theorem keys_marqueeSelection (zoomed : 0 < c.viewport.zoom) (keys : c.scene.keys.Nodup)
    (proper : ∀ e ∈ c.scene.elements, e.rect.IsProper) (p q : Point ℝ) (additive : Bool) :
    (c.marqueeSelection p q additive).keys =
      if additive then c.selection.keys ++ (c.touched p q).filter fun key => key ∉ c.selection.keys
      else c.touched p q := by
  have nodup : (c.touched p q).Nodup := keys.sublist (List.filter_sublist.map Element.key)
  rw [marqueeSelection, keysIntersecting_eq_touched zoomed proper]
  cases additive with
  | true => exact Selection.keys_appendAll c.selection nodup
  | false =>
    show (Selection.empty.appendAll _).keys = _
    simp [Selection.keys_appendAll _ nodup, Selection.empty]

end Stroke

/-- A selection rectangle is drawn from a place on nothing, however the pointer goes.  If the
release is away from the press, it selects the elements whose pictures it touches on the screen:
them alone from bottom to top, or behind the old selection those that are not in it.  Otherwise
nothing is selected, or the old selection is kept.  The effect tells whether the selection is
another one, and nothing else changes.  Drawn backwards, the rectangle selects the same. -/
theorem marquee_selects_what_it_touches (c : Canvas ℝ) (down up : Touch ℝ) (moves : List (Touch ℝ))
    (zoomed : 0 < c.viewport.zoom) (keys : c.scene.keys.Nodup)
    (proper : ∀ e ∈ c.scene.elements, e.rect.IsProper) (free : down.modifiers.hand = false)
    (bare : Hit.OnNothing c.scene c.selection c.viewport down.position) :
    let after := c.stroke down moves up
    let hits := c.touched down.position up.position
    (down.position.IsAway up.position →
      after.selection.keys =
        if down.modifiers.additive then
          c.selection.keys ++ hits.filter fun key => key ∉ c.selection.keys
        else hits) ∧
    (¬ down.position.IsAway up.position →
      after.selection.keys = if down.modifiers.additive then c.selection.keys else []) ∧
    ((c.follow down moves).handle (.pointer .up up.position up.modifiers)).1 =
      .ofSelection (after.selection ≠ c.selection) ∧
    after = { c with selection := after.selection, gesture := .idle } ∧
    (Hit.OnNothing c.scene c.selection c.viewport up.position →
      ∀ (back : List (Touch ℝ)) (held : Modifiers),
        (c.stroke ⟨up.position, down.modifiers⟩ back ⟨down.position, held⟩).selection =
          after.selection) := by
  have released := handle_up_of_onNothing down zoomed proper free bare moves up
  have selection : (c.stroke down moves up).selection =
      if isClick down.position up.position then
        if down.modifiers.additive then c.selection else Selection.empty
      else c.marqueeSelection down.position up.position down.modifiers.additive :=
    congrArg (fun done => done.2.selection) released
  refine ⟨fun away => ?_, fun near => ?_, ?_, ?_, fun bare' back held => ?_⟩
  · have moved : isClick down.position up.position = false := by
      rw [← Bool.not_eq_true, isClick_iff, not_not]
      exact away
    rw [selection, moved]
    exact keys_marqueeSelection zoomed keys proper _ _ _
  · rw [selection, (isClick_iff _ _).mpr near]
    cases down.modifiers.additive <;> rfl
  · rw [selection]
    exact congrArg Prod.fst released
  · rw [selection]
    exact congrArg Prod.snd released
  · have returned := handle_up_of_onNothing ⟨up.position, down.modifiers⟩ zoomed proper free
      bare' back ⟨down.position, held⟩
    rw [selection, isClick, marqueeSelection, Rect.ofCorners_comm down.position,
      Rect.ofCorners_comm (c.viewport.screenToWorld down.position)]
    exact congrArg (fun done => done.2.selection) returned

theorem owl_joins_at_its_corner :
    let down : Touch ℝ := ⟨⟨100, 10⟩, { Modifiers.none with additive := true }⟩
    Hit.OnNothing meadow.scene meadow.selection meadow.viewport down.position ∧
      (meadow.stroke down [] ⟨⟨30, 60⟩, Modifiers.none⟩).selection.keys =
        [⟨"elk"⟩, ⟨"fox"⟩, ⟨"owl"⟩] := by
  intro down
  have proper : ∀ e ∈ meadow.scene.elements, e.rect.IsProper := by
    simp [meadow, Scene.meadow, Rect.IsProper]
  have bare : Hit.OnNothing meadow.scene meadow.selection meadow.viewport down.position := by
    constructor
    · simp [Hit.OnHandle, meadow]
    · simp only [meadow, Scene.meadow, Viewport.near_shows_iff, Rect.right, Rect.bottom,
        Set.mem_uIcc, down]
      norm_num
  obtain ⟨selected, -⟩ := marquee_selects_what_it_touches meadow down ⟨⟨30, 60⟩, Modifiers.none⟩ []
    meadow_zoomed (by decide) proper rfl bare
  have hits : meadow.touched down.position ⟨30, 60⟩ = [⟨"fox"⟩, ⟨"owl"⟩] := by
    rw [← keysIntersecting_eq_touched meadow_zoomed proper]
    simp only [meadow, Scene.meadow, Viewport.near, Scene.keysIntersecting, Rect.intersects,
      Rect.ofCorners, Rect.right, Rect.bottom, Viewport.screenToWorld_eq, Scalar.smaller_eq_exact,
      Scalar.abs_eq_exact, down]
    norm_num
  refine ⟨bare, ?_⟩
  rw [selected (by norm_num [Point.IsAway, down]), hits]
  decide

end Canvas

end PromptCanvas

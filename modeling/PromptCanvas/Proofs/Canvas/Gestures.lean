import PromptCanvas.Canvas
import PromptCanvas.Proofs.Scalar.Exact
import PromptCanvas.Proofs.Scene

/-!
A gesture depends on its press and on the last place of the pointer.

Dragging and resizing write each element anew from what it was at the press, so that a later move
overwrites an earlier one.  Panning alone goes on from the place before; its steps add up to the
way from the press to the last place where sums are exact.
-/

set_option autoImplicit false
set_option relaxedAutoImplicit false

namespace PromptCanvas

variable {α : Type} [Scalar α]

/-- Where the pointer is, and what is held with it. -/
structure Touch (α : Type) where
  position : Point α
  modifiers : Modifiers

namespace Canvas

def touch (c : Canvas α) (phase : PointerPhase) (t : Touch α) : Canvas α :=
  (c.handle (.pointer phase t.position t.modifiers)).2

/-- The canvas after a press and the moves that follow it. -/
def follow (c : Canvas α) (down : Touch α) (moves : List (Touch α)) : Canvas α :=
  moves.foldl (fun c t => c.touch .move t) (c.touch .down down)

/-- The canvas after a press, the moves that follow it, and the release. -/
def stroke (c : Canvas α) (down : Touch α) (moves : List (Touch α)) (up : Touch α) : Canvas α :=
  (c.follow down moves).touch .up up

def withCamera {α : Type} (c : Canvas α) (camera : Point α) : Canvas α :=
  { c with viewport := { c.viewport with camera } }

def isPanning {α : Type} (c : Canvas α) : Bool := c.gesture matches .panning _

section Overwriting

variable (s : Scene α) (origins : List (Key × Point α)) (delta : Point α)

private theorem shiftAll_modify_movedTo {key : Key} (mem : key ∈ origins.map Prod.fst)
    (p : Point α) :
    shiftAll (s.modify key fun e => e.movedTo p) origins delta = shiftAll s origins delta := by
  induction origins generalizing s with
  | nil => cases mem
  | cons origin rest ih =>
    simp only [shiftAll, List.foldl_cons] at ih ⊢
    by_cases here : origin.1 = key
    · rw [here, Scene.modify_modify s fun _ => rfl]
    · have later : key ∈ rest.map Prod.fst := by simpa [Ne.symm here] using mem
      rw [Scene.modify_comm s here, ih _ later]

/-- Where the elements were shifted to before does not matter, and neither does it that only some
of them were. -/
private theorem shiftAll_shiftAll_of_subset {part : List (Key × Point α)}
    (within : part.map Prod.fst ⊆ origins.map Prod.fst) (earlier : Point α) :
    shiftAll (shiftAll s part earlier) origins delta = shiftAll s origins delta := by
  induction part generalizing s with
  | nil => rfl
  | cons first rest ih =>
    obtain ⟨first_mem, rest_within⟩ := List.cons_subset.mp within
    calc shiftAll (shiftAll s (first :: rest) earlier) origins delta
        = shiftAll (s.modify first.1 fun e => e.movedTo (first.2.add earlier)) origins delta :=
          ih _ rest_within
      _ = shiftAll s origins delta := shiftAll_modify_movedTo s origins delta first_mem _

private theorem shiftAll_shiftAll (earlier : Point α) :
    shiftAll (shiftAll s origins earlier) origins delta = shiftAll s origins delta :=
  shiftAll_shiftAll_of_subset s origins delta (List.Subset.refl _) earlier

private theorem modify_withRect_withRect (key : Key) (earlier later : Rect α) :
    (s.modify key fun e => e.withRect earlier).modify key (fun e => e.withRect later) =
      s.modify key fun e => e.withRect later :=
  Scene.modify_modify s fun _ => rfl

end Overwriting

section Moves

variable (c : Canvas α) (t last : Touch α)

private theorem isPanning_move : (c.touch .move t).isPanning = c.isPanning := by
  obtain ⟨scene, selection, viewport, gesture, frames⟩ := c
  cases gesture <;> rfl

theorem isPanning_press (down : Touch α) :
    (c.touch .down down).isPanning = down.modifiers.hand := by
  show (c.press down.position down.modifiers).2.isPanning = down.modifiers.hand
  unfold press
  split
  · next hand => exact hand.symm
  · next hand =>
    have without : down.modifiers.hand = false := by simpa using hand
    rw [without]
    split
    · split <;> rfl
    · rfl
    · rfl

private theorem withCamera_move_move (camera : Point α) :
    ((c.touch .move t).touch .move last).withCamera camera =
      (c.touch .move last).withCamera camera := by
  obtain ⟨scene, selection, viewport, gesture, frames⟩ := c
  cases gesture with
  | idle => rfl
  | marquee start current additive => rfl
  | panning place => rfl
  | dragging press origins =>
    show withCamera { scene := shiftAll (shiftAll scene origins _) origins _, .. } camera = _
    rw [shiftAll_shiftAll]
    rfl
  | resizing session =>
    show withCamera { scene := Scene.modify (Scene.modify scene session.key _) _ _, .. } camera = _
    rw [modify_withRect_withRect]
    rfl

private theorem camera_move (still : c.isPanning = false) :
    (c.touch .move t).viewport.camera = c.viewport.camera := by
  obtain ⟨scene, selection, viewport, gesture, frames⟩ := c
  cases gesture with
  | panning place => cases still
  | _ => rfl

private theorem foldl_move_eq {β : Type} (view : Canvas α → β) (Holds : Canvas α → Prop)
    (kept : ∀ c t, Holds c → Holds (c.touch .move t))
    (anew : ∀ c t last, Holds c →
      view ((c.touch .move t).touch .move last) = view (c.touch .move last))
    (earlier : List (Touch α)) (holds : Holds c) :
    view ((earlier ++ [last]).foldl (fun c t => c.touch .move t) c) =
      view (c.touch .move last) := by
  induction earlier generalizing c with
  | nil => rfl
  | cons t rest ih => exact (ih _ (kept c t holds)).trans (anew c t last holds)

end Moves

private theorem eq_of_withCamera {α : Type} {a b : Canvas α}
    (camera : a.viewport.camera = b.viewport.camera)
    (rest : a.withCamera a.viewport.camera = b.withCamera a.viewport.camera) : a = b := by
  rw [camera] at rest
  calc a = a.withCamera b.viewport.camera := by rw [← camera]; rfl
    _ = b.withCamera b.viewport.camera := rest
    _ = b := rfl

private theorem camera_move_move_exact (c : Canvas ℝ) (t last : Touch ℝ) :
    ((c.touch .move t).touch .move last).viewport.camera =
      (c.touch .move last).viewport.camera := by
  obtain ⟨scene, selection, viewport, gesture, frames⟩ := c
  cases gesture with
  | panning place =>
    have telescope : ∀ camera from' via to' : ℝ,
        camera + (via - from') + (to' - via) = camera + (to' - from') := fun _ _ _ _ => by ring
    show Point.mk _ _ = Point.mk _ _
    exact congrArg₂ Point.mk (telescope ..) (telescope ..)
  | _ => rfl

private theorem move_move_exact (c : Canvas ℝ) (t last : Touch ℝ) :
    (c.touch .move t).touch .move last = c.touch .move last :=
  eq_of_withCamera (camera_move_move_exact c t last) (withCamera_move_move c t last _)

private theorem move_move_of_not_panning {c : Canvas α} (still : c.isPanning = false)
    (t last : Touch α) : (c.touch .move t).touch .move last = c.touch .move last := by
  have carried : (c.touch .move t).isPanning = false := (isPanning_move c t).trans still
  refine eq_of_withCamera ?_ (withCamera_move_move c t last _)
  rw [camera_move _ last carried, camera_move c t still, camera_move c last still]

section Stroke

variable (c : Canvas α) (down last up : Touch α) (earlier : List (Touch α))

private theorem withCamera_follow (camera : Point α) :
    (c.follow down (earlier ++ [last])).withCamera camera =
      (c.follow down [last]).withCamera camera :=
  foldl_move_eq (c.touch .down down) last (fun c => c.withCamera camera) (fun _ => True)
    (fun _ _ _ => trivial) (fun c t last _ => withCamera_move_move c t last camera) earlier trivial

theorem follow_eq_of_not_panning (still : (c.touch .down down).isPanning = false) :
    c.follow down (earlier ++ [last]) = c.follow down [last] :=
  foldl_move_eq (c.touch .down down) last id (fun c => c.isPanning = false)
    (fun c t still => (isPanning_move c t).trans still)
    (fun _ t last still => move_move_of_not_panning still t last) earlier still

private theorem follow_eq_exact (c : Canvas ℝ) (down last : Touch ℝ) (earlier : List (Touch ℝ)) :
    c.follow down (earlier ++ [last]) = c.follow down [last] :=
  foldl_move_eq (c.touch .down down) last id (fun _ => True) (fun _ _ _ => trivial)
    (fun c t last _ => move_move_exact c t last) earlier trivial

private theorem withCamera_release (panning : c.isPanning = true) (camera : Point α) :
    (c.touch .up up).withCamera camera = (c.withCamera camera).touch .up up := by
  obtain ⟨scene, selection, viewport, gesture, frames⟩ := c
  cases gesture with
  | panning place => rfl
  | _ => cases panning

private theorem isPanning_follow :
    (c.follow down (earlier ++ [last])).isPanning = down.modifiers.hand :=
  calc ((c.follow down (earlier ++ [last])).withCamera Point.zero).isPanning
      = ((c.follow down [last]).withCamera Point.zero).isPanning :=
        congrArg isPanning (withCamera_follow c down last earlier Point.zero)
    _ = (c.touch .down down).isPanning := isPanning_move _ last
    _ = down.modifiers.hand := isPanning_press c down

private theorem stroke_eq_of_not_panning (still : down.modifiers.hand = false) :
    c.stroke down (earlier ++ [last]) up = c.stroke down [last] up := by
  have pressed : (c.touch .down down).isPanning = false := (isPanning_press c down).trans still
  rw [stroke, follow_eq_of_not_panning c down last earlier pressed]
  rfl

private theorem withCamera_stroke (camera : Point α) :
    (c.stroke down (earlier ++ [last]) up).withCamera camera =
      (c.stroke down [last] up).withCamera camera := by
  cases hand : down.modifiers.hand with
  | false => rw [stroke_eq_of_not_panning c down last up earlier hand]
  | true =>
    have whole := (isPanning_follow c down last earlier).trans hand
    have short : (c.follow down [last]).isPanning = true :=
      (isPanning_follow c down last []).trans hand
    rw [stroke, stroke, withCamera_release _ up whole, withCamera_release _ up short,
      withCamera_follow c down last earlier]

end Stroke

/-- A gesture is what its press, the last of its moves and its release make it; earlier moves count
for nothing, whatever is held with them.  The camera alone, while it is panned, may be rounded on
its way, and where nothing is rounded it is no exception. -/
theorem earlier_moves_do_not_count :
    (∀ {α : Type} [Scalar α] (c : Canvas α) (down last up : Touch α) (earlier : List (Touch α)),
      let whole := c.stroke down (earlier ++ [last]) up
      let short := c.stroke down [last] up
      whole.scene = short.scene ∧ whole.selection = short.selection ∧
        whole.viewport.zoom = short.viewport.zoom ∧ whole.gesture = short.gesture ∧
        (down.modifiers.hand = false → whole = short)) ∧
    ∀ (c : Canvas ℝ) (down last up : Touch ℝ) (earlier : List (Touch ℝ)),
      c.stroke down (earlier ++ [last]) up = c.stroke down [last] up := by
  constructor
  · intro α _ c down last up earlier
    have apart {β : Type} (part : Canvas α → β) :
        part ((c.stroke down (earlier ++ [last]) up).withCamera Point.zero) =
          part ((c.stroke down [last] up).withCamera Point.zero) :=
      congrArg part (withCamera_stroke c down last up earlier Point.zero)
    exact ⟨apart Canvas.scene, apart Canvas.selection, apart fun c => c.viewport.zoom,
      apart Canvas.gesture, stroke_eq_of_not_panning c down last up earlier⟩
  · intro c down last up earlier
    rw [stroke, follow_eq_exact c down last earlier]
    rfl

def desk : Canvas Float :=
  { Canvas.ofSize 100.0 100.0 with
    scene := ⟨[Element.make ⟨"fox"⟩ (.shape .rect "red" "") ⟨10.0, 10.0, 20.0, 20.0⟩], 1⟩ }

def bare (x y : Float) : Touch Float := ⟨⟨x, y⟩, Modifiers.none⟩

theorem square_goes_straight :
    let whole := desk.stroke (bare 15.0 15.0) [bare 90.0 0.5, bare 3.0 77.0, bare 40.0 25.0]
      (bare 40.0 25.0)
    whole = desk.stroke (bare 15.0 15.0) [bare 40.0 25.0] (bare 40.0 25.0) ∧
      whole.scene.rects = [⟨35.0, 20.0, 20.0, 20.0⟩] := by
  obtain ⟨-, -, -, -, alike⟩ := earlier_moves_do_not_count.1 desk (bare 15.0 15.0)
    (bare 40.0 25.0) (bare 40.0 25.0) [bare 90.0 0.5, bare 3.0 77.0]
  refine ⟨alike rfl, ?_⟩
  decide +kernel

end Canvas
end PromptCanvas

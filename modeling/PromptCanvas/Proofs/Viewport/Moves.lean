import PromptCanvas.Proofs.Scalar.Order
import PromptCanvas.Viewport

/-!
Whatever moves a viewport, its zoom stays defined and within the limits.

A transition is the one thing that moves the view later than it was asked for.  Its ends are zooms
in range, and every direct move ends it, so that ticks do nothing until the next one starts.
-/

set_option autoImplicit false
set_option relaxedAutoImplicit false

namespace PromptCanvas

/-- Zoom one is between the limits of zooming. -/
class ZoomScalar (α : Type) [Scalar α] : Prop extends TotalScalar α where
  agrees_least : Scalar.agrees (0.05 : α) 0.05 = true
  least_le_one : (0.05 : α) ≤ 1.0
  one_le_most : (1.0 : α) ≤ 3.0

instance : ZoomScalar Float where
  agrees_least := rfl
  least_le_one := by decide
  one_le_most := by decide

variable {α : Type} [Scalar α]

namespace Scalar

variable [TotalScalar α] {x lo hi : α}

private theorem clamp_between (x_defined : agrees x x = true) (lo_defined : agrees lo lo = true)
    (ordered : lo ≤ hi) :
    agrees (clamp x lo hi) (clamp x lo hi) = true ∧ lo ≤ clamp x lo hi ∧ clamp x lo hi ≤ hi := by
  have hi_defined : agrees hi hi = true := OrderedScalar.agrees_of_le ordered
  have refl {y : α} (defined : agrees y y = true) : y ≤ y :=
    TotalScalar.le_of_not_lt defined defined fun less => OrderedScalar.not_lt_of_lt less less
  have raised : agrees (if x < lo then lo else x) (if x < lo then lo else x) = true ∧
      lo ≤ if x < lo then lo else x := by
    split
    · exact ⟨lo_defined, refl lo_defined⟩
    · next above => exact ⟨x_defined, TotalScalar.le_of_not_lt x_defined lo_defined above⟩
  rw [clamp]
  generalize (if x < lo then lo else x) = y at raised
  obtain ⟨y_defined, lower⟩ := raised
  show agrees (if hi < y then hi else y) _ = true ∧ _ ≤ (if hi < y then hi else y) ∧ _
  split
  · exact ⟨hi_defined, ordered, refl hi_defined⟩
  · next below => exact ⟨y_defined, lower, TotalScalar.le_of_not_lt hi_defined y_defined below⟩

end Scalar

namespace Viewport

/-- A zoom that is defined and within the limits. -/
structure InRange (zoom : α) : Prop where
  defined : Scalar.agrees zoom zoom = true
  lower : 0.05 ≤ zoom
  upper : zoom ≤ 3.0

/-- The zoom is in range, and so are the ends of a transition under way, which takes its time. -/
structure Sound (v : Viewport α) : Prop where
  zoom : InRange v.zoom
  animation : ∀ a ∈ v.animation, InRange a.fromZoom ∧ InRange a.toZoom ∧ a.duration ≠ 0

/-- What can be done to a viewport. -/
inductive Move (α : Type) where
  | set (zoom : α) (camera : Point α)
  | hydrate (view : ViewState α)
  | resize (viewW viewH : α)
  | zoomAt (p : Point α) (zoom : α)
  | zoomStep (p : Point α) (factor : α)
  | panBy (delta : Point α)
  | wheel (p delta : Point α) (zooms : Bool)
  | animateTo (zoom : α) (camera : Point α) (now duration : Nat)
  | tick (now : Nat)

namespace Move

def apply (v : Viewport α) : Move α → Viewport α
  | set zoom camera => v.set zoom camera
  | hydrate view => (v.hydrate view).2
  | resize viewW viewH => v.resize viewW viewH
  | zoomAt p zoom => v.zoomAt p zoom
  | zoomStep p factor => v.zoomStep p factor
  | panBy delta => v.panBy delta
  | wheel p delta zooms => v.wheel p delta zooms
  | animateTo zoom camera now duration => v.animateTo zoom camera now duration
  | tick now => (v.tick now).2

/-- Whether the move sets the view at once; that of a saved view does if it is taken over. -/
def Settles (v : Viewport α) : Move α → Prop
  | set .. | zoomAt .. | zoomStep .. | panBy _ | wheel .. => True
  | hydrate view => (v.hydrate view).1 = true
  | animateTo _ _ _ duration => duration = 0
  | resize .. | tick _ => False

def Starts {α : Type} : Move α → Prop
  | animateTo _ _ _ duration => duration ≠ 0
  | _ => False

end Move

def run (v : Viewport α) (moves : List (Move α)) : Viewport α := moves.foldl Move.apply v

/-- The move behind the first `n` of some takes a saved view over. -/
def HydratesAt (v : Viewport α) (moves : List (Move α)) (n : Nat) : Prop :=
  ∃ view, moves[n]? = some (.hydrate view) ∧
    ((v.run (moves.take n)).hydrate view).2 ≠ v.run (moves.take n)

section Idle

variable {v : Viewport α}

theorem tick_of_idle (idle : v.animation = none) (now : Nat) : v.tick now = (false, v) := by
  rw [tick, idle]

private theorem idle_of_settles {m : Move α} (settles : m.Settles v) :
    (m.apply v).animation = none := by
  cases m with
  | hydrate view =>
    change (v.hydrate view).1 = true at settles
    cases taken : v.hydrated with
    | true => simp [hydrate, taken] at settles
    | false => simp [Move.apply, hydrate, taken, set]
  | wheel p delta zooms => cases zooms <;> rfl
  | animateTo zoom camera now duration =>
    obtain rfl : duration = 0 := settles
    rfl
  | resize | tick => cases settles
  | set | zoomAt | zoomStep | panBy => rfl

private theorem idle_apply {m : Move α} (idle : v.animation = none) (quiet : ¬ m.Starts) :
    (m.apply v).animation = none := by
  cases m with
  | hydrate view =>
    rw [Move.apply, hydrate]
    split
    · exact idle
    · rfl
  | wheel p delta zooms => cases zooms <;> rfl
  | animateTo zoom camera now duration =>
    exact idle_of_settles (m := .animateTo zoom camera now duration) (not_not.mp quiet)
  | tick now => rwa [Move.apply, tick_of_idle idle]
  | resize => exact idle
  | set | zoomAt | zoomStep | panBy => rfl

private theorem idle_run {moves : List (Move α)} (idle : v.animation = none)
    (quiet : ∀ m ∈ moves, ¬ m.Starts) : (v.run moves).animation = none := by
  induction moves generalizing v with
  | nil => exact idle
  | cons m moves ih =>
    obtain ⟨first, rest⟩ := List.forall_mem_cons.mp quiet
    exact ih (idle_apply idle first) rest

theorem run_ticks_of_idle (idle : v.animation = none) (times : List Nat) :
    v.run (times.map .tick) = v := by
  induction times with
  | nil => rfl
  | cons now times ih =>
    change ((v.tick now).2).run (times.map .tick) = v
    rw [tick_of_idle idle, ih]

end Idle

section Hydration

variable {v : Viewport α}

private theorem hydrated_apply {m : Move α} (taken : v.hydrated = true) :
    (m.apply v).hydrated = true := by
  cases m with
  | hydrate view => simp [Move.apply, hydrate, taken]
  | wheel p delta zooms => cases zooms <;> exact taken
  | animateTo zoom camera now duration =>
    rw [Move.apply, animateTo]
    split <;> exact taken
  | tick now =>
    rw [Move.apply, tick]
    split
    · exact taken
    · simp only []
      split <;> exact taken
  | set | resize | zoomAt | zoomStep | panBy => exact taken

private theorem hydrated_run {moves : List (Move α)} (taken : v.hydrated = true) :
    (v.run moves).hydrated = true := by
  induction moves generalizing v with
  | nil => exact taken
  | cons m moves ih => exact ih (hydrated_apply taken)

private theorem hydrated_hydrate (v : Viewport α) (view : ViewState α) :
    (v.hydrate view).2.hydrated = true := by
  rw [hydrate]
  split
  · next taken => exact taken
  · rfl

private theorem hydrate_of_hydrated (taken : v.hydrated = true) (view : ViewState α) :
    v.hydrate view = (false, v) := by
  rw [hydrate, if_pos taken]

private theorem not_hydratesAt_of_lt {moves : List (Move α)} {n later : Nat} {view : ViewState α}
    (offered : moves[n]? = some (.hydrate view)) (before : n < later) :
    ¬ v.HydratesAt moves later := by
  rintro ⟨view', -, changed⟩
  have cut : moves.take later =
      moves.take n ++ .hydrate view :: (moves.take later).drop (n + 1) := by
    have inside : (moves.take later)[n]? = some (.hydrate view) := by
      rw [List.getElem?_take, if_pos before, offered]
    obtain ⟨within, here⟩ := List.getElem?_eq_some_iff.mp inside
    have split := (List.take_append_drop n (moves.take later)).symm
    rwa [List.take_take, Nat.min_eq_left before.le, List.drop_eq_getElem_cons within, here]
      at split
  have taken : (v.run (moves.take later)).hydrated = true := by
    rw [cut, run, List.foldl_append, List.foldl_cons]
    exact hydrated_run (hydrated_hydrate _ view)
  exact changed (congrArg Prod.snd (hydrate_of_hydrated taken view'))

end Hydration

variable [ZoomScalar α]

theorem inRange_one : InRange (1.0 : α) :=
  ⟨TotalScalar.agrees_one, ZoomScalar.least_le_one, ZoomScalar.one_le_most⟩

theorem inRange_clampZoom (zoom : α) : InRange (clampZoom zoom) := by
  have least : Scalar.agrees (minZoom : α) minZoom = true := ZoomScalar.agrees_least
  have ordered : (minZoom : α) ≤ maxZoom :=
    OrderedScalar.le_trans ZoomScalar.least_le_one ZoomScalar.one_le_most
  rw [clampZoom]
  split
  · exact inRange_one
  · next known =>
    have defined : Scalar.agrees zoom zoom = true := by simpa [Scalar.isUndefined] using known
    obtain ⟨defined', lower, upper⟩ := Scalar.clamp_between defined least ordered
    exact ⟨defined', lower, upper⟩

namespace Sound

variable {v : Viewport α}

omit [ZoomScalar α] in
theorem of_idle (zoom : InRange v.zoom) (idle : v.animation = none) : v.Sound :=
  ⟨zoom, by simp [idle]⟩

private theorem animateTo (sound : v.Sound) (zoom : α) (camera : Point α) (now duration : Nat) :
    (v.animateTo zoom camera now duration).Sound := by
  rw [Viewport.animateTo]
  split
  · exact of_idle (inRange_clampZoom _) rfl
  · next lasting =>
    refine ⟨sound.zoom, fun a started => ?_⟩
    obtain rfl := Option.some.inj started
    exact ⟨sound.zoom, inRange_clampZoom zoom, lasting⟩

private theorem tick (sound : v.Sound) (now : Nat) : (v.tick now).2.Sound := by
  cases moving : v.animation with
  | none =>
    rw [tick_of_idle moving]
    exact sound
  | some a =>
    simp only [Viewport.tick, moving]
    split
    · exact of_idle (sound.animation a moving).2.1 rfl
    · exact ⟨inRange_clampZoom _, fun other same => sound.animation other (moving ▸ same)⟩

private theorem apply (sound : v.Sound) (m : Move α) : (m.apply v).Sound := by
  cases m with
  | set => exact of_idle (inRange_clampZoom _) rfl
  | hydrate view =>
    rw [Move.apply, hydrate]
    split
    · exact sound
    · exact of_idle (inRange_clampZoom _) rfl
  | resize => exact ⟨sound.zoom, sound.animation⟩
  | zoomAt => exact of_idle (inRange_clampZoom _) rfl
  | zoomStep => exact of_idle (inRange_clampZoom _) rfl
  | panBy => exact of_idle sound.zoom rfl
  | wheel p delta zooms =>
    cases zooms with
    | true => exact of_idle (inRange_clampZoom _) rfl
    | false => exact of_idle sound.zoom rfl
  | animateTo zoom camera now duration => exact sound.animateTo zoom camera now duration
  | tick now => exact sound.tick now

theorem run (sound : v.Sound) (moves : List (Move α)) : (v.run moves).Sound := by
  induction moves generalizing v with
  | nil => exact sound
  | cons m moves ih => exact ih (sound.apply m)

end Sound

/-- Whatever moves a viewport, with numbers that may be infinite or none: its zoom is defined and
within the limits, and so are the ends of a transition under way, which takes its time.  Behind a
move that sets the view at once, ticks change nothing until a transition starts.  And one saved view
is taken over at most. -/
theorem moves_keep_zoom_in_range (viewW viewH : α) (moves : List (Move α)) :
    let v := (ofSize viewW viewH).run moves
    v.Sound ∧
    (∀ m later, m.Settles v → (∀ l ∈ later, ¬ l.Starts) →
      let w := v.run (m :: later)
      (∀ now, w.tick now = (false, w)) ∧ ∀ times : List Nat, w.run (times.map .tick) = w) ∧
    ∀ n n', (ofSize viewW viewH).HydratesAt moves n → (ofSize viewW viewH).HydratesAt moves n' →
      n = n' := by
  intro v
  refine ⟨(Sound.of_idle inRange_one rfl).run moves, fun m later settles quiet => ?_,
    fun n n' here there => ?_⟩
  · have idle : ((m.apply v).run later).animation = none :=
      idle_run (idle_of_settles settles) quiet
    exact ⟨tick_of_idle idle, run_ticks_of_idle idle⟩
  · have ⟨view, offered, _⟩ := here
    have ⟨view', offered', _⟩ := there
    rcases Nat.lt_trichotomy n n' with before | same | behind
    · exact absurd there (not_hydratesAt_of_lt offered before)
    · exact same
    · exact absurd here (not_hydratesAt_of_lt offered' behind)

section Sample

def noNumber : Float := 0.0 / 0.0

/-- A view without numbers is taken over, a transition to an infinite zoom is under way, and a
second view comes too late. -/
def wildMoves : List (Move Float) :=
  [.hydrate ⟨noNumber, 8.0, noNumber⟩, .animateTo (1.0 / 0.0) ⟨noNumber, 0.0⟩ 10 100, .tick 60,
    .hydrate ⟨2.0, 0.0, 0.0⟩]

/-- The zoom is in range half on the way, the late view has no effect, and a movement of the
content ends the transition for good. -/
theorem wild_zoom_stays_in_range :
    let v := (ofSize 800.0 noNumber).run wildMoves
    let w := v.run [.panBy ⟨4.0, 4.0⟩]
    v.Sound ∧ v.isAnimating = true ∧ (1.0 : Float) < v.zoom ∧
      ¬ (ofSize 800.0 noNumber).HydratesAt wildMoves 3 ∧ w.tick 200 = (false, w) := by
  intro v w
  obtain ⟨sound, still, once⟩ := moves_keep_zoom_in_range 800.0 noNumber wildMoves
  have first : (ofSize 800.0 noNumber).HydratesAt wildMoves 0 := by
    refine ⟨_, rfl, fun same => ?_⟩
    exact absurd (congrArg Viewport.hydrated same) (by decide)
  refine ⟨sound, by decide, by decide +kernel, fun second => ?_, ?_⟩
  · exact absurd (once 0 3 first second) (by decide)
  · exact (still (.panBy ⟨4.0, 4.0⟩) [] trivial nofun).1 200

end Sample

end Viewport

end PromptCanvas

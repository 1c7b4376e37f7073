import Mathlib.Data.List.Induction
import PromptCanvas.Proofs.Viewport.Zooming

/-!
Transitions of the view end exactly, and never overshoot.

A tick shows the view at its own time, whatever was shown before, until the time is up; then it
shows the target and ends the transition.  On the way there zoom and camera go by one curve, which
rises from zero to one, so that each tick in the order of time brings all of them nearer.
-/

set_option autoImplicit false
set_option relaxedAutoImplicit false

namespace PromptCanvas.Viewport

section Ticks

variable {α : Type} [Scalar α]

def settled (v : Viewport α) : Viewport α :=
  match v.animation with
  | none => v
  | some a => { v with animation := none, zoom := a.toZoom, camera := a.toCamera }

theorem settled_tick (v : Viewport α) (now : Nat) : (v.tick now).2.settled = v.settled := by
  cases moving : v.animation with
  | none => rw [tick_of_idle moving]
  | some a =>
    simp only [tick, moving]
    split
    · simp [settled, moving]
    · simp [settled, moving]

theorem animation_tick {v : Viewport α} {now : Nat} {a : Animation α}
    (moving : (v.tick now).2.animation = some a) : v.animation = some a := by
  cases before : v.animation with
  | none => rwa [tick_of_idle before, before] at moving
  | some a' =>
    simp only [tick, before] at moving
    split at moving
    · cases moving
    · exact moving

omit [Scalar α] in
private theorem animation_settled (v : Viewport α) : v.settled.animation = none := by
  cases moving : v.animation with
  | none => simp only [settled, moving]
  | some a => simp only [settled, moving]

/-- The viewport after ticks at some times, the first one first. -/
def ticked (v : Viewport α) (times : List Nat) : Viewport α := v.run (times.map .tick)

private theorem ticked_append (v : Viewport α) (earlier later : List Nat) :
    v.ticked (earlier ++ later) = (v.ticked earlier).ticked later := by
  rw [ticked, run, List.map_append, List.foldl_append]
  rfl

private theorem settled_ticked (v : Viewport α) (times : List Nat) :
    (v.ticked times).settled = v.settled := by
  induction times generalizing v with
  | nil => rfl
  | cons now times ih => exact (ih (v.tick now).2).trans (v.settled_tick now)

private theorem animation_ticked {v : Viewport α} {times : List Nat} {a : Animation α}
    (moving : (v.ticked times).animation = some a) : v.animation = some a := by
  induction times generalizing v with
  | nil => exact moving
  | cons now times ih => exact animation_tick (ih moving)

end Ticks

section Curve

variable {t t' : ℝ}

private theorem easeOutCubic_eq (lower : 0 ≤ t) (upper : t ≤ 1) :
    easeOutCubic t = 1 - (1 - t) ^ 3 := by
  have zero : (0.0 : ℝ) = 0 := by norm_num
  have one : (1.0 : ℝ) = 1 := by norm_num
  simp only [easeOutCubic, zero, one, Scalar.clamp_eq_exact lower upper]
  ring

private theorem easeOutCubic_le (lower : 0 ≤ t) (le : t ≤ t') (upper : t' ≤ 1) :
    easeOutCubic t ≤ easeOutCubic t' := by
  rw [easeOutCubic_eq lower (le.trans upper), easeOutCubic_eq (lower.trans le) upper]
  have rest : (1 - t') ^ 3 ≤ (1 - t) ^ 3 := pow_le_pow_left₀ (by linarith) (by linarith) 3
  linarith

private theorem mem_uIcc_of_le {z w e e' : ℝ} (le : e ≤ e') (upper : e' ≤ 1) :
    z + (w - z) * e' ∈ Set.uIcc (z + (w - z) * e) w := by
  rw [Set.mem_uIcc]
  rcases le_total z w with rising | falling
  · have along : 0 ≤ w - z := sub_nonneg.mpr rising
    have farther := mul_le_mul_of_nonneg_left le along
    have within := mul_le_of_le_one_right along upper
    exact .inl ⟨by linarith, by linarith⟩
  · have along : w - z ≤ 0 := sub_nonpos.mpr falling
    have farther := mul_le_mul_of_nonpos_left le along
    have within := mul_le_mul_of_nonpos_left upper along
    exact .inr ⟨by linarith, by linarith⟩

end Curve

namespace Animation

variable {a : Animation ℝ} {now later : Nat}

private theorem progress_eq (a : Animation ℝ) (now : Nat) :
    progress a now = min (((now - a.start : ℕ) : ℝ) / a.duration) 1 := by
  have one : (1.0 : ℝ) = 1 := by norm_num
  rw [progress, Scalar.smaller_eq_exact, Scalar.ofNat_eq_exact, Scalar.ofNat_eq_exact, one]

private theorem progress_nonneg (a : Animation ℝ) (now : Nat) : 0 ≤ progress a now := by
  rw [progress_eq]
  exact le_min (by positivity) zero_le_one

private theorem progress_le_one (a : Animation ℝ) (now : Nat) : progress a now ≤ 1 :=
  (progress_eq a now).trans_le (min_le_right _ _)

private theorem progress_le (a : Animation ℝ) (le : now ≤ later) :
    progress a now ≤ progress a later := by
  rw [progress_eq, progress_eq]
  have elapsed : now - a.start ≤ later - a.start := Nat.sub_le_sub_right le a.start
  gcongr

private theorem progress_of_early (early : now ≤ a.start) : progress a now = 0 := by
  rw [progress_eq, Nat.sub_eq_zero_of_le early]
  simp

private theorem one_le_progress_iff (lasting : a.duration ≠ 0) :
    1 ≤ progress a now ↔ a.start + a.duration ≤ now := by
  have positive : (0 : ℝ) < a.duration := Nat.cast_pos.mpr (Nat.pos_of_ne_zero lasting)
  rw [progress_eq, le_min_iff, le_div_iff₀ positive, one_mul, Nat.cast_le]
  constructor
  · rintro ⟨elapsed, -⟩
    omega
  · intro late
    exact ⟨by omega, le_rfl⟩

noncomputable def eased (a : Animation ℝ) (now : Nat) : ℝ := easeOutCubic (progress a now)

private theorem eased_le (a : Animation ℝ) (le : now ≤ later) : eased a now ≤ eased a later :=
  easeOutCubic_le (progress_nonneg a now) (progress_le a le) (progress_le_one a later)

private theorem eased_of_early (early : now ≤ a.start) : eased a now = 0 := by
  rw [eased, progress_of_early early, easeOutCubic_eq le_rfl zero_le_one]
  norm_num

private theorem eased_nonneg (a : Animation ℝ) (now : Nat) : 0 ≤ eased a now := by
  rw [← eased_of_early (Nat.le_refl a.start)]
  exact easeOutCubic_le (progress_nonneg a _)
    (progress_of_early (Nat.le_refl a.start) ▸ progress_nonneg a now) (progress_le_one a now)

private theorem eased_le_one (a : Animation ℝ) (now : Nat) : eased a now ≤ 1 := by
  have whole : easeOutCubic (1 : ℝ) = 1 := by
    rw [easeOutCubic_eq zero_le_one le_rfl]
    norm_num
  rw [← whole]
  exact easeOutCubic_le (progress_nonneg a now) (progress_le_one a now) le_rfl

end Animation

/-- What one viewport shows lies between what two others show, coordinate by coordinate. -/
structure Between (v w shown : Viewport ℝ) : Prop where
  zoom : shown.zoom ∈ Set.uIcc v.zoom w.zoom
  camera : v.camera.Between w.camera shown.camera

noncomputable def onTheWay (v : Viewport ℝ) (a : Animation ℝ) (now : Nat) : Viewport ℝ :=
  { v with
    zoom := a.fromZoom + (a.toZoom - a.fromZoom) * Animation.eased a now
    camera := a.fromCamera.lerp a.toCamera (Animation.eased a now) }

variable {v w target : Viewport ℝ} {a : Animation ℝ} {now : Nat}

private theorem between_right (v target : Viewport ℝ) : v.Between target target :=
  ⟨Set.right_mem_uIcc, Set.right_mem_uIcc, Set.right_mem_uIcc⟩

private theorem between_left (v target : Viewport ℝ) : v.Between target v :=
  ⟨Set.left_mem_uIcc, Set.left_mem_uIcc, Set.left_mem_uIcc⟩

private theorem Between.trans {shown : Viewport ℝ} (first : v.Between target w)
    (second : w.Between target shown) : v.Between target shown :=
  ⟨Set.uIcc_subset_uIcc_right first.zoom second.zoom,
    Set.uIcc_subset_uIcc_right first.camera.1 second.camera.1,
    Set.uIcc_subset_uIcc_right first.camera.2 second.camera.2⟩

structure Leaves (v : Viewport ℝ) (a : Animation ℝ) : Prop where
  moving : v.animation = some a
  zoom : v.zoom = a.fromZoom
  camera : v.camera = a.fromCamera
  first : InRange a.fromZoom
  last : InRange a.toZoom
  lasting : a.duration ≠ 0

private theorem onTheWay_of_early (leaves : v.Leaves a) (early : now ≤ a.start) :
    v.onTheWay a now = v := by
  rw [onTheWay, Animation.eased_of_early early]
  simp [Point.lerp, Point.add, Point.scale, ← leaves.zoom, ← leaves.camera]

private theorem tick_of_early (moving : w.animation = some a) (leaves : v.Leaves a)
    (early : now < a.start + a.duration) : w.tick now = (true, w.onTheWay a now) := by
  have one : (1.0 : ℝ) = 1 := by norm_num
  have under : ¬ (1.0 : ℝ) ≤ Animation.progress a now := by
    rw [one, Animation.one_le_progress_iff leaves.lasting]
    omega
  have way := mem_uIcc_of_le (z := a.fromZoom) (w := a.toZoom)
    (Animation.eased_nonneg a now) (Animation.eased_le_one a now)
  rw [mul_zero, add_zero] at way
  have range := Set.uIcc_subset_Icc leaves.first.mem_Icc leaves.last.mem_Icc way
  simp only [tick, moving, if_neg under, onTheWay]
  rw [← Animation.eased, clampZoom_of_mem range]

theorem tick_of_late
    (late : ∀ a ∈ v.animation, 0 < a.duration ∧ a.start + a.duration ≤ now) :
    v.tick now = (false, v.settled) := by
  cases moving : v.animation with
  | none => rw [tick_of_idle moving, settled, moving]
  | some a =>
    obtain ⟨lasting, ended⟩ := late a moving
    have whole : (1.0 : ℝ) ≤ Animation.progress a now := by
      have one : (1.0 : ℝ) = 1 := by norm_num
      rw [one]
      exact (Animation.one_le_progress_iff lasting.ne').mpr ended
    simp only [tick, moving, if_pos whole, settled]

private theorem tick_ticked_of_late (leaves : v.Leaves a) (times : List Nat)
    (late : a.start + a.duration ≤ now) : (v.ticked times).tick now = (false, v.settled) := by
  rw [← settled_ticked v times]
  refine tick_of_late fun a' moving => ?_
  obtain rfl : a = a' := Option.some.inj (leaves.moving.symm.trans (animation_ticked moving))
  exact ⟨Nat.pos_of_ne_zero leaves.lasting, late⟩

private theorem ticked_of_late (leaves : v.Leaves a) {times : List Nat}
    (late : ∃ past ∈ times, a.start + a.duration ≤ past) : v.ticked times = v.settled := by
  obtain ⟨past, mem, ended⟩ := late
  obtain ⟨earlier, later, rfl⟩ := List.append_of_mem mem
  rw [ticked_append]
  show ((v.ticked earlier).tick past).2.ticked later = v.settled
  rw [tick_ticked_of_late leaves earlier ended]
  exact run_ticks_of_idle (animation_settled v) later

private theorem ticked_of_early (leaves : v.Leaves a) {times : List Nat}
    (early : ∀ time ∈ times, time < a.start + a.duration) :
    v.ticked times = v.onTheWay a (times.getLast?.getD a.start) := by
  suffices any : ∀ w : Viewport ℝ, w.animation = some a → ∀ time, time < a.start + a.duration →
      (w.onTheWay a time).ticked times = w.onTheWay a (times.getLast?.getD time) by
    have started := onTheWay_of_early leaves (Nat.le_refl a.start)
    have lasting := leaves.lasting
    have first := any v leaves.moving a.start (by omega)
    rwa [started] at first
  induction times with
  | nil => exact fun w moving time _ => rfl
  | cons time times ih =>
    intro w moving before _
    obtain ⟨now, rest⟩ := List.forall_mem_cons.mp early
    have step : (w.onTheWay a before).tick time = (true, w.onTheWay a time) :=
      tick_of_early (w := w.onTheWay a before) moving leaves now
    show ((w.onTheWay a before).tick time).2.ticked times = _
    rw [step, ih rest w moving time now, List.getLast?_cons]
    rfl

private theorem le_last_of_pairwise {times : List Nat}
    (sorted : (times ++ [now]).Pairwise (· ≤ ·)) : ∀ time ∈ times ++ [now], time ≤ now := by
  obtain ⟨-, -, before⟩ := List.pairwise_append.mp sorted
  refine List.forall_mem_append.mpr ⟨fun time mem => ?_, List.forall_mem_singleton.mpr le_rfl⟩
  exact before time mem now List.mem_cons_self

private theorem tick_ticked_of_early (leaves : v.Leaves a) {times : List Nat}
    (early : ∀ time ∈ times ++ [now], time < a.start + a.duration) :
    (v.ticked times).tick now = (true, v.onTheWay a now) := by
  obtain ⟨before, at_last⟩ := List.forall_mem_append.mp early
  rw [ticked_of_early leaves before]
  exact tick_of_early (w := v.onTheWay a _) leaves.moving leaves
    (at_last now List.mem_cons_self)

private theorem eased_lastTick_le {times : List Nat} (sorted : (times ++ [now]).Pairwise (· ≤ ·)) :
    Animation.eased a (times.getLast?.getD a.start) ≤ Animation.eased a now := by
  have before := le_last_of_pairwise sorted
  cases last : times.getLast? with
  | none =>
    rw [Option.getD_none, Animation.eased_of_early (Nat.le_refl a.start)]
    exact Animation.eased_nonneg a now
  | some time =>
    exact Animation.eased_le a (before time (List.mem_append_left _ (List.mem_of_getLast? last)))

private theorem between_tick (leaves : v.Leaves a) {times : List Nat}
    (sorted : (times ++ [now]).Pairwise (· ≤ ·)) :
    (v.ticked times).Between v.settled (v.ticked (times ++ [now])) := by
  by_cases late : a.start + a.duration ≤ now
  · have ended : v.ticked (times ++ [now]) = v.settled :=
      ticked_of_late leaves ⟨now, List.mem_concat_self, late⟩
    rw [ended]
    exact between_right _ _
  · have early : ∀ time ∈ times ++ [now], time < a.start + a.duration := fun time mem =>
      lt_of_le_of_lt (le_last_of_pairwise sorted time mem) (not_le.mp late)
    have nearer := eased_lastTick_le (a := a) sorted
    have within := Animation.eased_le_one a now
    rw [ticked_of_early leaves (List.forall_mem_append.mp early).1,
      ticked_of_early leaves early, List.getLast?_concat,
      Option.getD_some]
    simp only [settled, leaves.moving]
    exact ⟨mem_uIcc_of_le nearer within, mem_uIcc_of_le nearer within,
      mem_uIcc_of_le nearer within⟩

private theorem between_ticked (leaves : v.Leaves a) {earlier later : List Nat}
    (sorted : (earlier ++ later).Pairwise (· ≤ ·)) :
    (v.ticked earlier).Between v.settled (v.ticked (earlier ++ later)) := by
  induction later using List.reverseRecOn with
  | nil =>
    rw [List.append_nil]
    exact between_left _ _
  | append_singleton later now ih =>
    rw [← List.append_assoc] at sorted ⊢
    exact (ih (List.pairwise_append.mp sorted).1).trans (between_tick leaves sorted)

private theorem leaves_animateTo (range : InRange v.zoom) (zoom : ℝ) (camera : Point ℝ)
    (start : Nat) {duration : Nat} (lasting : 0 < duration) :
    (v.animateTo zoom camera start duration).Leaves
      { fromZoom := v.zoom
        fromCamera := v.camera
        toZoom := clampZoom zoom
        toCamera := camera
        start
        duration } := by
  rw [animateTo, if_neg lasting.ne']
  exact ⟨rfl, rfl, rfl, range, inRange_clampZoom zoom, lasting.ne'⟩

/-- From any view, over ticks in the order of time: a transition starts where the view is; each of
zoom and camera comes nearer to its target with every tick and never passes it; a tick that is not
behind the start leaves the view as it is; a tick says that the transition is under way just if it
comes before the end; the first one that does not sets zoom and camera to the targets and ends the
transition, and those behind it say so and change nothing. -/
theorem transition_ends_exactly (viewW viewH : ℝ) (moves : List (Move ℝ)) (zoom : ℝ)
    (camera : Point ℝ) (start : Nat) {duration : Nat} (lasting : 0 < duration) :
    let v := (ofSize viewW viewH).run moves
    let w := v.animateTo zoom camera start duration
    let target : Viewport ℝ := { v with animation := none, zoom := clampZoom zoom, camera }
    w.viewState = v.viewState ∧
    (∀ earlier later : List Nat, (earlier ++ later).Pairwise (· ≤ ·) →
      (w.ticked earlier).Between target (w.ticked (earlier ++ later))) ∧
    ∀ (earlier : List Nat) (now : Nat), (earlier ++ [now]).Pairwise (· ≤ ·) →
      (((w.ticked earlier).tick now).1 = true ↔ now < start + duration) ∧
      (now ≤ start → w.ticked (earlier ++ [now]) = w) ∧
      (start + duration ≤ now → w.ticked (earlier ++ [now]) = target) ∧
      ((∃ past ∈ earlier, start + duration ≤ past) →
        (w.ticked earlier).tick now = (false, w.ticked earlier)) := by
  intro v w target
  have range : InRange v.zoom := ((Sound.of_idle inRange_one rfl).run moves).zoom
  have leaves := leaves_animateTo range zoom camera start lasting
  have settles : w.settled = target := by
    simp only [w, settled, animateTo, if_neg lasting.ne']
    rfl
  have before {earlier : List Nat} {now : Nat} (sorted : (earlier ++ [now]).Pairwise (· ≤ ·))
      (early : now < start + duration) : ∀ time ∈ earlier ++ [now], time < start + duration :=
    fun time mem => lt_of_le_of_lt (le_last_of_pairwise sorted time mem) early
  refine ⟨?_, fun earlier later sorted => settles ▸ between_ticked leaves sorted,
    fun earlier now sorted => ⟨?_, fun early => ?_, fun late => ?_, fun past => ?_⟩⟩
  · simp only [w, animateTo, if_neg lasting.ne']
    rfl
  · by_cases late : start + duration ≤ now
    · rw [tick_ticked_of_late leaves earlier late]
      simpa using late
    · have early : now < start + duration := by omega
      rw [tick_ticked_of_early leaves (before sorted early)]
      simpa using early
  · rw [ticked_of_early leaves (before sorted (by omega)), List.getLast?_concat,
      Option.getD_some]
    exact onTheWay_of_early leaves early
  · rw [ticked_of_late leaves ⟨now, List.mem_concat_self, late⟩, settles]
  · rw [ticked_of_late leaves past]
    exact tick_of_idle (animation_settled w) now

/-- A transition asks for more than the largest zoom, and moves the content left and down; ticks
come before its start, half on the way, and too late. -/
theorem pond_is_reached :
    let v := (ofSize 800 600).run [.panBy ⟨10, 0⟩]
    let w := v.animateTo 5 ⟨-90, 200⟩ 1000 200
    let pond : Viewport ℝ := { v with animation := none, zoom := 3, camera := ⟨-90, 200⟩ }
    w.ticked [900] = w ∧ ((w.ticked [900]).tick 1100).1 = true ∧
      (w.ticked [900]).Between pond (w.ticked [900, 1100]) ∧
      w.ticked [900, 1100, 1250] = pond ∧ pond.tick 1250 = (false, pond) := by
  intro v w pond
  obtain ⟨-, between, ticks⟩ := transition_ends_exactly 800 600 [.panBy ⟨10, 0⟩] 5 ⟨-90, 200⟩ 1000
    (by decide : 0 < 200)
  have largest : clampZoom (5 : ℝ) = 3 := by
    rw [clampZoom_eq_min_max]
    norm_num
  rw [largest] at between ticks
  obtain ⟨-, early, -, -⟩ := ticks [] 900 (by decide)
  obtain ⟨moving, -, -, -⟩ := ticks [900] 1100 (by decide)
  obtain ⟨-, -, late, -⟩ := ticks [900, 1100] 1250 (by decide)
  obtain ⟨-, -, -, idle⟩ := ticks [900, 1100, 1250] 1250 (by decide)
  have reached : w.ticked [900, 1100, 1250] = pond := late (by decide)
  refine ⟨early (by decide), moving.mpr (by decide), between [900] [1100] (by decide), reached, ?_⟩
  have still := idle ⟨1250, by decide, by decide⟩
  rwa [reached] at still

end PromptCanvas.Viewport

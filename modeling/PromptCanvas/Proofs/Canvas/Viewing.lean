import PromptCanvas.Proofs.Canvas.Effects
import PromptCanvas.Proofs.Scalar.Order

/-!
No change of the view is missed.

The display asks once a frame whether to paint, and whoever reports the view outside asks as often
as they like.  A `Viewing` holds beside the canvas what either of them saw last.  While a flag is
down, the view is the one that was seen last; a change raises both, and each stays up until it is
asked for with success.
-/

set_option autoImplicit false
set_option relaxedAutoImplicit false

namespace PromptCanvas

variable {α : Type} [Scalar α]

instance [DecidableEq α] (v w : ViewState α) : Decidable (v.Same w) :=
  inferInstanceAs (Decidable (v = w ∨ v.agrees w = true))

private theorem ViewState.Same.trans [TransitiveScalar α] {u v w : ViewState α} (first : u.Same v)
    (second : v.Same w) : u.Same w := by
  rcases first with rfl | first
  · exact second
  rcases second with rfl | second
  · exact .inr first
  · simp only [ViewState.agrees, Bool.and_eq_true] at first second
    obtain ⟨⟨zoom, x⟩, y⟩ := first
    obtain ⟨⟨zoom', x'⟩, y'⟩ := second
    refine .inr ?_
    simp only [ViewState.agrees, Bool.and_eq_true]
    exact ⟨⟨TransitiveScalar.agrees_trans zoom zoom', TransitiveScalar.agrees_trans x x'⟩,
      TransitiveScalar.agrees_trans y y'⟩

namespace Canvas

/-- What can be done to a canvas. -/
inductive Act (α : Type) where
  | handle (event : InputEvent α)
  | deleteSelected
  | insertPlaced (key : Key) (content : Content α) (w h : α) (anchor : Option (Point α))
  | mention (key : Key)
  | fitContent (now : Nat)
  | fitResult (key : Key) (now : Nat)
  | tick (now : Nat)

/-- The canvas after an act; one that fails leaves it as it is. -/
def Act.perform (c : Canvas α) : Act α → Canvas α
  | .handle event => (c.handle event).2
  | .deleteSelected => c.deleteSelected.2
  | .insertPlaced key content w h anchor => (c.insertPlaced key content w h anchor).toOption.getD c
  | .mention key => ((c.mention key).toOption.map Prod.snd).getD c
  | .fitContent now => (c.fitContent now).2
  | .fitResult key now => (c.fitResult key now).2
  | .tick now => (c.tick now).2

inductive Notes (c c' : Canvas α) : Prop
  | still :
    c'.frameSync = c.frameSync → c'.viewport.viewState.Same c.viewport.viewState → Notes c c'
  | marked : c'.frameSync = c.frameSync.mark → Notes c c'

section Acts

variable (c : Canvas α)

private theorem notes_of_eq {c c' : Canvas α} (frameSync : c'.frameSync = c.frameSync)
    (viewport : c'.viewport = c.viewport) : Notes c c' :=
  .still frameSync (.inl (congrArg Viewport.viewState viewport))

private theorem frameSync_respond (event : InputEvent α) :
    (c.respond event).2.frameSync = c.frameSync := by
  cases event with
  | pointer phase p modifiers =>
    cases phase with
    | down =>
      change (c.press p modifiers).2.frameSync = _
      unfold press
      split
      · rfl
      · split
        · split <;> rfl
        · rfl
        · rfl
    | move =>
      change (c.move p modifiers).2.frameSync = _
      unfold move
      split <;> rfl
    | up =>
      change (c.release p).2.frameSync = _
      unfold release
      split <;> rfl
    | cancel => rfl
  | wheel p delta modifiers => rfl
  | command shortcut =>
    cases shortcut with
    | deleteSelected =>
      change c.deleteSelected.2.frameSync = _
      unfold deleteSelected
      split <;> rfl
    | _ => rfl

private theorem notes_handle (event : InputEvent α) : Notes c (c.handle event).2 := by
  have told : (c.handle event).2.frameSync = c.frameSync.markIf (c.handle event).1.viewport :=
    congrArg (FrameSync.markIf (c.respond event).1.viewport) (c.frameSync_respond event)
  cases changed : (c.handle event).1.viewport with
  | true =>
    rw [changed] at told
    exact .marked told
  | false =>
    rw [changed] at told
    exact .still told ((c.handle_covers event).viewport changed)

private theorem notes_perform (act : Act α) : Notes c (act.perform c) := by
  cases act with
  | handle event => exact c.notes_handle event
  | deleteSelected =>
    change Notes c c.deleteSelected.2
    unfold deleteSelected
    split <;> exact notes_of_eq rfl rfl
  | insertPlaced key content w h anchor =>
    rw [Act.perform, insertPlaced]
    generalize c.scene.insert _ = inserted
    cases inserted <;> exact notes_of_eq rfl rfl
  | mention key =>
    rw [Act.perform, mention]
    cases c.scene.ensureRefId key <;> exact notes_of_eq rfl rfl
  | fitContent now =>
    change Notes c (c.fitContent now).2
    unfold fitContent
    split
    · exact notes_of_eq rfl rfl
    · exact .marked rfl
  | fitResult key now =>
    change Notes c (c.fitResult key now).2
    unfold fitResult
    split
    · exact notes_of_eq rfl rfl
    · exact .marked rfl
  | tick now =>
    rw [Act.perform, tick]
    cases animation : c.viewport.animation with
    | none =>
      have idle : c.viewport.isAnimating = false := congrArg Option.isSome animation
      have still : c.viewport.tick now = (false, c.viewport) := by rw [Viewport.tick, animation]
      rw [idle, still]
      exact notes_of_eq rfl rfl
    | some a =>
      have moving : c.viewport.isAnimating = true := congrArg Option.isSome animation
      rw [moving]
      exact .marked rfl

end Acts

section Asking

private theorem reportAllowed_iff {f : FrameSync} {now : Nat} :
    f.reportAllowed now = true ↔ ∀ last ∈ f.lastReport, last + 80 ≤ now := by
  rw [FrameSync.reportAllowed]
  cases f.lastReport with
  | none => simp
  | some last =>
    have beat : 80 ≤ now - last ↔ last + 80 ≤ now := by omega
    simp only [Option.mem_some_iff, forall_eq']
    exact decide_eq_true_iff.trans beat

def Reports (c : Canvas α) (now : Nat) : Prop :=
  c.frameSync.reportDue = true ∧ ∀ last ∈ c.frameSync.lastReport, last + 80 ≤ now

def reported (c : Canvas α) (now : Nat) : Canvas α :=
  { c with frameSync := { c.frameSync with reportDue := false, lastReport := some now } }

private theorem pollView_of_reports {c : Canvas α} {now : Nat} (due : c.Reports now) :
    c.pollView now = (some c.viewport.viewState, c.reported now) := by
  simp [pollView, FrameSync.poll, due.1, reportAllowed_iff.mpr due.2, reported]

private theorem pollView_of_not_reports {c : Canvas α} {now : Nat} (early : ¬ c.Reports now) :
    c.pollView now = (none, c) := by
  have refused : (c.frameSync.reportDue && c.frameSync.reportAllowed now) = false := by
    rw [← Bool.not_eq_true, Bool.and_eq_true, reportAllowed_iff]
    exact early
  simp [pollView, FrameSync.poll, refused]

end Asking

/-- Something is done to a canvas, or it is asked for its view. -/
inductive Turn (α : Type) where
  | act (act : Act α)
  | takeFrame
  | pollView (now : Nat)

end Canvas

/-- A canvas, and what was seen of it. -/
structure Viewing (α : Type) where
  canvas : Canvas α
  shown : ViewState α
  reported : ViewState α
  reports : List Nat

namespace Viewing

def view (v : Viewing α) : ViewState α := v.canvas.viewport.viewState

def start (canvas : Canvas α) : Viewing α :=
  ⟨canvas, canvas.viewport.viewState, canvas.viewport.viewState, []⟩

def step (v : Viewing α) : Canvas.Turn α → Viewing α
  | .act act => { v with canvas := act.perform v.canvas }
  | .takeFrame => { v with canvas := v.canvas.takeFrame.2, shown := v.view }
  | .pollView now =>
    match v.canvas.pollView now with
    | (none, canvas) => { v with canvas }
    | (some view, canvas) => { v with canvas, reported := view, reports := now :: v.reports }

def run (v : Viewing α) (turns : List (Canvas.Turn α)) : Viewing α := turns.foldl step v

structure Sees (v : Viewing α) : Prop where
  shown : v.canvas.frameSync.frameDue = false → v.view.Same v.shown
  reported : v.canvas.frameSync.reportDue = false → v.view.Same v.reported
  last : v.canvas.frameSync.lastReport = v.reports.head?
  apart : v.reports.Pairwise fun later earlier => earlier + 80 ≤ later

variable {v : Viewing α}

private theorem sees_start {c : Canvas α} (fresh : c.frameSync.lastReport = none) :
    (start c).Sees :=
  ⟨fun _ => .inl rfl, fun _ => .inl rfl, fresh, .nil⟩

private theorem step_of_reports {now : Nat} (due : v.canvas.Reports now) :
    v.step (.pollView now) =
      { v with
        canvas := v.canvas.reported now
        reported := v.view
        reports := now :: v.reports } := by
  rw [step, Canvas.pollView_of_reports due]
  rfl

private theorem step_of_not_reports {now : Nat} (early : ¬ v.canvas.Reports now) :
    v.step (.pollView now) = v := by
  rw [step, Canvas.pollView_of_not_reports early]

private theorem due_act (v : Viewing α) (act : Canvas.Act α) :
    (v.canvas.frameSync.frameDue = true → (v.step (.act act)).canvas.frameSync.frameDue = true) ∧
      (v.canvas.frameSync.reportDue = true →
        (v.step (.act act)).canvas.frameSync.reportDue = true) := by
  rcases v.canvas.notes_perform act with ⟨frameSync, -⟩ | frameSync
  · rw [step, frameSync]
    exact ⟨id, id⟩
  · rw [step, frameSync]
    exact ⟨fun _ => rfl, fun _ => rfl⟩

private theorem frameDue_step {turn : Canvas.Turn α} (untaken : turn ≠ .takeFrame)
    (due : v.canvas.frameSync.frameDue = true) :
    (v.step turn).canvas.frameSync.frameDue = true := by
  cases turn with
  | act act => exact (v.due_act act).1 due
  | takeFrame => exact absurd rfl untaken
  | pollView now =>
    by_cases reports : v.canvas.Reports now
    · rw [step_of_reports reports]
      exact due
    · rwa [step_of_not_reports reports]

private theorem frameDue_run {turns : List (Canvas.Turn α)} (untaken : .takeFrame ∉ turns)
    (due : v.canvas.frameSync.frameDue = true) :
    (v.run turns).canvas.frameSync.frameDue = true := by
  induction turns generalizing v with
  | nil => exact due
  | cons turn turns ih =>
    rw [List.mem_cons, not_or] at untaken
    exact ih untaken.2 (frameDue_step (Ne.symm untaken.1) due)

private theorem reports_suffix_step (v : Viewing α) (turn : Canvas.Turn α) :
    v.reports <:+ (v.step turn).reports := by
  cases turn with
  | act act => exact List.suffix_rfl
  | takeFrame => exact List.suffix_rfl
  | pollView now =>
    by_cases reports : v.canvas.Reports now
    · rw [step_of_reports reports]
      exact List.suffix_cons now v.reports
    · have same := congrArg Viewing.reports (step_of_not_reports reports)
      exact same ▸ List.suffix_rfl

private theorem reports_suffix_run (v : Viewing α) (turns : List (Canvas.Turn α)) :
    v.reports <:+ (v.run turns).reports := by
  induction turns generalizing v with
  | nil => exact List.suffix_rfl
  | cons turn turns ih => exact (v.reports_suffix_step turn).trans (ih (v.step turn))

private theorem reportDue_step {turn : Canvas.Turn α}
    (unreported : (v.step turn).reports = v.reports) (due : v.canvas.frameSync.reportDue = true) :
    (v.step turn).canvas.frameSync.reportDue = true := by
  cases turn with
  | act act => exact (v.due_act act).2 due
  | takeFrame => exact due
  | pollView now =>
    by_cases reports : v.canvas.Reports now
    · rw [step_of_reports reports] at unreported
      exact absurd unreported (List.cons_ne_self now v.reports)
    · rwa [step_of_not_reports reports]

private theorem reportDue_run {turns : List (Canvas.Turn α)}
    (unreported : (v.run turns).reports = v.reports) (due : v.canvas.frameSync.reportDue = true) :
    (v.run turns).canvas.frameSync.reportDue = true := by
  induction turns generalizing v with
  | nil => exact due
  | cons turn turns ih =>
    have later : ((v.step turn).run turns).reports = v.reports := unreported
    have first : (v.step turn).reports = v.reports := by
      have added := v.reports_suffix_step turn
      have kept := (v.step turn).reports_suffix_run turns
      rw [later] at kept
      exact kept.eq_of_length_le added.length_le
    exact ih (later.trans first.symm) (reportDue_step first due)

private theorem pairwise_apart_cons {reports : List Nat} {now : Nat}
    (apart : reports.Pairwise fun later earlier => earlier + 80 ≤ later)
    (beat : ∀ last ∈ reports.head?, last + 80 ≤ now) :
    (now :: reports).Pairwise fun later earlier => earlier + 80 ≤ later := by
  refine List.pairwise_cons.mpr ⟨fun time mem => ?_, apart⟩
  cases reports with
  | nil => cases mem
  | cons last reports =>
    have latest := beat last rfl
    rcases List.mem_cons.mp mem with rfl | before
    · exact latest
    · have earlier := (List.pairwise_cons.mp apart).1 time before
      omega

variable [TransitiveScalar α]

private theorem Sees.act (sees : v.Sees) (act : Canvas.Act α) : (v.step (.act act)).Sees := by
  rcases v.canvas.notes_perform act with ⟨frameSync, same⟩ | frameSync
  · refine ⟨fun seen => ?_, fun seen => ?_, frameSync ▸ sees.last, sees.apart⟩
    · rw [step, frameSync] at seen
      exact same.trans (sees.shown seen)
    · rw [step, frameSync] at seen
      exact same.trans (sees.reported seen)
  · refine ⟨fun seen => ?_, fun seen => ?_, ?_, sees.apart⟩
    · rw [step, frameSync] at seen
      cases seen
    · rw [step, frameSync] at seen
      cases seen
    · rw [step, frameSync]
      exact sees.last

private theorem Sees.step (sees : v.Sees) (turn : Canvas.Turn α) : (v.step turn).Sees := by
  cases turn with
  | act act => exact sees.act act
  | takeFrame => exact ⟨fun _ => .inl rfl, sees.reported, sees.last, sees.apart⟩
  | pollView now =>
    by_cases due : v.canvas.Reports now
    · rw [step_of_reports due]
      have beat := due.2
      rw [sees.last] at beat
      exact ⟨sees.shown, fun _ => .inl rfl, rfl, pairwise_apart_cons sees.apart beat⟩
    · rwa [step_of_not_reports due]

private theorem Sees.run (sees : v.Sees) (turns : List (Canvas.Turn α)) : (v.run turns).Sees := by
  induction turns generalizing v with
  | nil => exact sees
  | cons turn turns ih => exact ih (sees.step turn)

/-- Whatever is done to a canvas, and whenever it is asked: as soon as the view is not the one of
the last frame, the next frame is painted; as soon as it is not the one last reported, the next
report that the beat allows brings the present one; and reports are at least 80 milliseconds
apart. -/
theorem no_change_is_missed {c : Canvas α} (fresh : c.frameSync.lastReport = none)
    (turns more : List (Canvas.Turn α)) :
    let v := (start c).run turns
    let later := v.run more
    (¬ v.view.Same v.shown → .takeFrame ∉ more → later.canvas.takeFrame.1 = true) ∧
    (¬ v.view.Same v.reported → later.reports = v.reports →
      ∀ now, (∀ last ∈ later.reports.head?, last + 80 ≤ now) →
        (later.canvas.pollView now).1 = some later.view) ∧
    later.reports.Pairwise fun after before => before + 80 ≤ after := by
  intro v later
  have sees : v.Sees := (sees_start fresh).run turns
  have seesLater : later.Sees := sees.run more
  refine ⟨fun changed untaken => ?_, fun changed unreported now beat => ?_, seesLater.apart⟩
  · refine frameDue_run untaken (Bool.eq_true_of_not_eq_false fun down => ?_)
    exact changed (sees.shown down)
  · rw [← seesLater.last] at beat
    have due : later.canvas.frameSync.reportDue = true :=
      reportDue_run unreported
        (Bool.eq_true_of_not_eq_false fun down => changed (sees.reported down))
    rw [Canvas.pollView_of_reports ⟨due, beat⟩]
    rfl

section Sample

def scroll : Canvas.Turn Float := .act (.handle (.wheel ⟨0.0, 0.0⟩ ⟨4.0, 0.0⟩ .none))

theorem scroll_is_seen :
    let c : Canvas Float := .ofSize 800.0 600.0
    let later := ((start c).run [scroll, .pollView 0, scroll]).run [.pollView 40, .act (.tick 60)]
    c.frameSync.lastReport = none ∧ later.reports = [0] ∧ later.canvas.takeFrame.1 = true ∧
      (later.canvas.pollView 80).1 = some ⟨1.0, -8.0, 0.0⟩ := by
  intro c later
  have fresh : c.frameSync.lastReport = none := rfl
  obtain ⟨painted, reported, -⟩ := no_change_is_missed fresh [scroll, .pollView 0, scroll]
    [.pollView 40, .act (.tick 60)]
  have times : later.reports = [0] := by decide
  have view : later.view = ⟨1.0, -8.0, 0.0⟩ := by decide
  refine ⟨fresh, times, painted (by decide) nofun, ?_⟩
  rw [reported (by decide) (by decide) 80 (by decide), view]

end Sample

end Viewing

end PromptCanvas

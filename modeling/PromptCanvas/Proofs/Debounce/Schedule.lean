import PromptCanvas.Proofs.Debounce.Diary

/-!
The schedule that a debouncer keeps.

What a debouncer holds in its state is what its diary says: the deadline is set while a trigger
waits for its run, and a run is under way while it has begun and not ended.  With that, each thing
that happens is justified by what happened before.
-/

set_option autoImplicit false
set_option relaxedAutoImplicit false

namespace PromptCanvas.Debouncer

open Log

variable {ι : Type}

theorem exists_of_isDue {d : Debouncer ι} {now : Nat} (due : d.isDue now = true) :
    ∃ deadline, d.deadline = some deadline ∧ deadline ≤ now := by
  simpa [isDue, Option.any_eq_true] using due

private theorem quiet_le_dueAfter (d : Debouncer ι) (now : Nat) :
    now + d.timing.quiet ≤ d.dueAfter now := by
  unfold dueAfter
  split
  · exact Nat.le_max_left _ _
  · exact Nat.le_refl _

private theorem spacing_le_dueAfter {d : Debouncer ι} {start : Nat} (last : start ∈ d.lastRun)
    (now : Nat) : start + d.timing.spacing ≤ d.dueAfter now := by
  rw [dueAfter, Option.mem_def.mp last]
  exact Nat.le_max_right _ _

namespace Diary

/-- Nothing is written down before it happens. -/
structure Clocked (s : Diary ι) : Prop where
  past : ∀ entry ∈ s.log, entry.1 ≤ s.now
  ordered : s.log.Pairwise fun first second => first.1 ≤ second.1

/-- Signals are looked at in the order in which they came, and none is lost. -/
structure Posted (s : Diary ι) : Prop where
  fifo : sent s.log = looked s.log ++ s.debouncer.inbox
  closed : s.debouncer.closed = true ↔ ∃ time, (time, .closed) ∈ s.log
  answered : s.debouncer.acknowledged = answered s.log

/-- The deadline stands for triggers without a run, the phase for a run without its end. -/
structure Accounted (s : Diary ι) : Prop where
  deadline : s.debouncer.deadline.isSome = true ↔
    Pending Happening.isTrigger Happening.isBegin s.log
  running : s.debouncer.isRunning = true ↔ Pending Happening.isBegin Happening.isEnd s.log
  runs : begun s.log = ended s.log + if s.debouncer.isRunning then 1 else 0

structure Settled (s : Diary ι) : Prop where
  busy : s.debouncer.phase ≠ .waiting → s.debouncer.deadline = none
  flushing : ∀ waiter, s.debouncer.phase = .running (.acknowledge waiter) →
    ∃ before, looked s.log = before ++ [.flush waiter]
  ending : s.debouncer.phase = .running .stop ∨ s.debouncer.phase = .stopped →
    s.debouncer.closed = true ∧ s.debouncer.inbox = []
  stopped : s.debouncer.phase = .stopped ↔ ∃ time, (time, .stopped) ∈ s.log

structure Spaced (timing : Timing) (s : Diary ι) : Prop where
  same : s.debouncer.timing = timing
  quiet : ∀ due ∈ s.debouncer.deadline, ∀ time, (time, .looked .trigger) ∈ s.log →
    time + timing.quiet ≤ due
  spacing : ∀ due ∈ s.debouncer.deadline, ∀ time cause, (time, .began cause) ∈ s.log →
    time + timing.spacing ≤ due
  lastRun : ∀ time cause, (time, .began cause) ∈ s.log →
    ∃ start ∈ s.debouncer.lastRun, time ≤ start

variable {s s' : Diary ι} {timing : Timing}

private theorem Clocked.become (h : Clocked s) (debouncer : Debouncer ι)
    (what : List (Happening ι)) : Clocked (s.become debouncer what) := by
  constructor
  case past =>
    intro entry mem
    rcases List.mem_append.mp mem with old | new
    · exact h.past entry old
    · obtain ⟨happening, -, rfl⟩ := List.mem_map.mp new
      exact Nat.le_refl _
  case ordered =>
    have together : (what.map fun happening => (s.now, happening)).Pairwise
        fun first second => first.1 ≤ second.1 :=
      List.pairwise_map.mpr (List.pairwise_of_forall fun _ _ => Nat.le_refl _)
    refine List.pairwise_append.mpr ⟨h.ordered, together, ?_⟩
    intro entry old other new
    obtain ⟨happening, -, rfl⟩ := List.mem_map.mp new
    exact h.past entry old

theorem Clocked.step (h : Clocked s) (step : Step s s') : Clocked s' := by
  cases step with
  | work work => cases work <;> exact h.become _ _
  | send isOpen signal => exact h.become _ _
  | close isOpen => exact h.become _ _
  | elapse later => exact ⟨fun entry mem => Nat.le_trans (h.past entry mem) later, h.ordered⟩

theorem Posted.step (h : Posted s) (step : Step s s') : Posted s' := by
  obtain ⟨fifo, closed, answered⟩ := h
  cases step with
  | work work =>
    cases work with
    | due waiting due =>
      constructor <;> simpa [start, List.filterMap_cons]
    | trigger waiting inbox =>
      rw [inbox] at fifo
      constructor <;> simpa [receive, List.filterMap_cons]
    | flush waiting inbox owed =>
      rw [inbox] at fifo
      constructor <;>
        simpa [receive, start, owed, List.filterMap_cons]
    | answer waiting inbox clear =>
      rw [inbox] at fifo
      constructor <;>
        simpa [receive, acknowledge, clear, List.filterMap_cons]
    | last waiting inbox isClosed owed =>
      constructor <;>
        simpa [windUp, start, owed, List.filterMap_cons]
    | stop waiting inbox isClosed clear =>
      constructor <;> simpa [windUp, clear, List.filterMap_cons]
    | @finish ending running =>
      cases ending <;> constructor <;>
        simpa [finishRun, running, acknowledge, List.filterMap_cons]
  | send isOpen signal =>
    rw [isOpen] at closed
    constructor
    case fifo => simp [Debouncer.send, isOpen, fifo, List.filterMap_cons]
    case closed => simpa [Debouncer.send, isOpen] using closed
    case answered => simpa [Debouncer.send, isOpen, List.filterMap_cons]
  | close isOpen =>
    constructor
    case fifo => simpa [Debouncer.close, List.filterMap_cons]
    case closed => simp [Debouncer.close]
    case answered => simpa [Debouncer.close, List.filterMap_cons]
  | elapse later => exact ⟨fifo, closed, answered⟩

theorem Accounted.become (h : Accounted s) {d : Debouncer ι} {what : List (Happening ι)}
    (deadline : d.deadline.isSome = true ↔
      Pending Happening.isTrigger Happening.isBegin (what.map fun event => (s.now, event)) ∨
        (s.debouncer.deadline.isSome = true ∧ ∀ event ∈ what, event.isBegin = false))
    (running : d.isRunning = true ↔
      Pending Happening.isBegin Happening.isEnd (what.map fun event => (s.now, event)) ∨
        (s.debouncer.isRunning = true ∧ ∀ event ∈ what, event.isEnd = false))
    (runs : what.countP Happening.isBegin + (if s.debouncer.isRunning then 1 else 0) =
      what.countP Happening.isEnd + (if d.isRunning then 1 else 0)) :
    Accounted (s.become d what) := by
  constructor
  case deadline => rw [debouncer_become, deadline, h.deadline, pending_become]
  case running => rw [debouncer_become, running, h.running, pending_become]
  case runs =>
    have before := h.runs
    rw [begun_become, ended_become, debouncer_become]
    omega

theorem Accounted.step (h : Accounted s) (step : Step s s') : Accounted s' := by
  cases step with
  | work work =>
    cases work with
    | due waiting due =>
      apply h.become <;>
        simp [start, isRunning, waiting]
    | trigger waiting inbox =>
      apply h.become <;>
        simp [receive, isRunning, waiting]
    | flush waiting inbox owed =>
      apply h.become <;>
        simp [receive, owed, start, isRunning, waiting]
    | answer waiting inbox clear =>
      apply h.become <;>
        simp [receive, clear, acknowledge, isRunning, waiting]
    | last waiting inbox isClosed owed =>
      apply h.become <;>
        simp [windUp, owed, start, isRunning, waiting]
    | stop waiting inbox isClosed clear =>
      apply h.become <;>
        simp [windUp, clear, isRunning, waiting]
    | @finish ending running =>
      cases ending <;> apply h.become <;>
        simp [finishRun, acknowledge, isRunning, running, List.countP_cons]
  | send isOpen signal =>
    have same : s.debouncer.send signal =
        { s.debouncer with inbox := s.debouncer.inbox ++ [signal] } := if_neg (by simp [isOpen])
    rw [same]
    refine h.become ?_ ?_ rfl <;>
      simp [isRunning]
  | close isOpen =>
    refine h.become ?_ ?_ rfl <;>
      simp [Debouncer.close, isRunning]
  | elapse later => exact ⟨h.deadline, h.running, h.runs⟩

theorem Settled.step (h : Settled s) (step : Step s s') : Settled s' := by
  obtain ⟨busy, flushing, ending, stopped⟩ := h
  cases step with
  | work work =>
    cases work with
    | due waiting due =>
      constructor <;> simp_all [start]
    | trigger waiting inbox =>
      constructor <;> simp_all [receive]
    | flush waiting inbox owed =>
      constructor <;> simp_all [receive, start, List.filterMap_cons]
    | answer waiting inbox clear =>
      constructor <;> simp_all [receive, acknowledge]
    | last waiting inbox isClosed owed =>
      constructor <;> simp_all [windUp, start]
    | stop waiting inbox isClosed clear =>
      constructor <;> simp_all [windUp]
    | @finish ending running =>
      cases ending <;> constructor <;> simp_all [finishRun, acknowledge]
  | send isOpen signal =>
    constructor <;> simp_all [Debouncer.send, List.filterMap_cons]
  | close isOpen =>
    constructor <;> simp_all [Debouncer.close, List.filterMap_cons]
  | elapse later => exact ⟨busy, flushing, ending, stopped⟩

private theorem Spaced.keep (h : Spaced timing s) {d : Debouncer ι} {what : List (Happening ι)}
    (same : d.timing = s.debouncer.timing) (deadline : d.deadline = s.debouncer.deadline)
    (lastRun : d.lastRun = s.debouncer.lastRun)
    (nothing : ∀ event ∈ what, event.isTrigger = false ∧ event.isBegin = false) :
    Spaced timing (s.become d what) := by
  have trigger : .looked .trigger ∉ what := fun mem => by
    simpa using (nothing _ mem).1
  have began (cause : Cause) : .began cause ∉ what := fun mem => by
    simpa using (nothing _ mem).2
  constructor
  case same => exact same.trans h.same
  case quiet => simpa [deadline, trigger] using h.quiet
  case spacing => simpa [deadline, began] using h.spacing
  case lastRun => simpa [lastRun, began] using h.lastRun

private theorem Spaced.run (h : Spaced timing s) (clocked : Clocked s) (d : Debouncer ι)
    (same : d.timing = s.debouncer.timing) (ending : Ending ι) (what : List (Happening ι)) :
    Spaced timing (s.become (d.start s.now ending) what) := by
  constructor
  case same => exact same.trans h.same
  case quiet => simp [Debouncer.start]
  case spacing => simp [Debouncer.start]
  case lastRun =>
    intro time cause mem
    exact ⟨s.now, rfl, (clocked.become _ what).past _ mem⟩

private theorem Spaced.trigger (h : Spaced timing s) (clocked : Clocked s) (d : Debouncer ι)
    (same : d.timing = s.debouncer.timing) (lastRun : d.lastRun = s.debouncer.lastRun) :
    Spaced timing (s.become (d.receive s.now .trigger) [.looked .trigger]) := by
  have timing_eq : d.timing = timing := same.trans h.same
  constructor
  case same => exact timing_eq
  case quiet =>
    rintro due ⟨⟩ time mem
    have past : time ≤ s.now := (clocked.become _ _).past _ mem
    have ahead := d.quiet_le_dueAfter s.now
    rw [timing_eq] at ahead
    omega
  case spacing =>
    rintro due ⟨⟩ time cause mem
    have began : (time, .began cause) ∈ s.log := by simpa using mem
    obtain ⟨start, last, le⟩ := h.lastRun time cause began
    have ahead := spacing_le_dueAfter (lastRun ▸ last) s.now
    rw [timing_eq] at ahead
    omega
  case lastRun => simpa [receive, lastRun] using h.lastRun

theorem Spaced.step (h : Spaced timing s) (clocked : Clocked s) (step : Step s s') :
    Spaced timing s' := by
  cases step with
  | work work =>
    cases work with
    | due waiting due => exact h.run clocked _ rfl _ _
    | trigger waiting inbox => exact h.trigger clocked _ rfl rfl
    | @flush waiter rest waiting inbox owed =>
      rw [receive, if_pos owed]
      exact h.run clocked { s.debouncer with inbox := rest } rfl _ _
    | answer waiting inbox clear =>
      apply h.keep <;>
        simp [receive, clear, acknowledge]
    | last waiting inbox isClosed owed =>
      rw [windUp, if_pos owed]
      exact h.run clocked _ rfl _ _
    | stop waiting inbox isClosed clear =>
      apply h.keep <;> simp [windUp, clear]
    | @finish ending running =>
      cases ending <;> apply h.keep <;>
        simp [finishRun, running, acknowledge]
  | send isOpen signal =>
    apply h.keep <;> simp [Debouncer.send, isOpen]
  | close isOpen =>
    apply h.keep <;> simp [Debouncer.close]
  | elapse later => exact ⟨h.same, h.quiet, h.spacing, h.lastRun⟩

end Diary

end PromptCanvas.Debouncer

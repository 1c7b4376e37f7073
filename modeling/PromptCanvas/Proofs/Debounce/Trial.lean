import PromptCanvas.Debounce.Trial
import PromptCanvas.Proofs.Debounce.Diary

set_option autoImplicit false
set_option relaxedAutoImplicit false

namespace PromptCanvas.Debouncer

open Relation

def Log.starts {ι : Type} (log : Log ι) : List Nat :=
  log.filterMap fun entry => if entry.2.isBegin then some entry.1 else none

theorem Log.length_starts {ι : Type} (log : Log ι) : log.starts.length = log.begun := by
  rw [starts, List.length_filterMap_eq_countP, begun]
  congr 1
  funext entry
  cases begins : entry.2.isBegin <;> simp

namespace Diary

variable {ι : Type} {s : Diary ι} {next : Debouncer ι}

private theorem starts_become (debouncer : Debouncer ι) (what : List (Happening ι)) :
    Log.starts (s.become debouncer what).log =
      Log.starts s.log ++ List.replicate (what.countP Happening.isBegin) s.now := by
  have alone : (what.map fun happening => (s.now, happening)).filterMap
      (fun entry => if entry.2.isBegin then some entry.1 else none) =
        List.replicate (what.countP Happening.isBegin) s.now := by
    induction what with
    | nil => rfl
    | cons happening rest ih =>
      rw [List.map_cons, List.filterMap_cons, ih, List.countP_cons]
      cases happening.isBegin <;> rfl
  simp only [Log.starts, become, List.filterMap_append, alone]

private theorem work_of_advance (taken : s.debouncer.advance? s.now = some next) :
    ∃ what, Work s (s.become next what) ∧
      what.countP Happening.isBegin = if next.isRunning then 1 else 0 := by
  unfold advance? at taken
  split at taken
  · next is_waiting =>
    have waiting : s.debouncer.phase = .waiting := by
      cases phase : s.debouncer.phase <;> simp [isWaiting, phase] at is_waiting ⊢
    split at taken
    · next due =>
      obtain rfl := Option.some.inj taken
      exact ⟨_, .due waiting due, rfl⟩
    · split at taken
      · next signal rest inbox =>
        obtain rfl := Option.some.inj taken
        cases signal with
        | trigger =>
          refine ⟨_, .trigger waiting inbox, ?_⟩
          simp [receive, isRunning, waiting]
        | flush waiter =>
          by_cases owed : s.debouncer.deadline.isSome = true
          · refine ⟨_, .flush waiting inbox owed, ?_⟩
            simp [receive, owed, start, isRunning]
          · have clear := Option.not_isSome_iff_eq_none.mp owed
            refine ⟨_, .answer waiting inbox clear, ?_⟩
            simp [receive, clear, acknowledge, isRunning, waiting]
      · next inbox =>
        split at taken
        · next closed =>
          obtain rfl := Option.some.inj taken
          by_cases owed : s.debouncer.deadline.isSome = true
          · refine ⟨_, .last waiting inbox closed owed, ?_⟩
            simp [windUp, owed, start, isRunning]
          · have clear := Option.not_isSome_iff_eq_none.mp owed
            refine ⟨_, .stop waiting inbox closed clear, ?_⟩
            simp [windUp, clear, isRunning]
        · cases taken
  · cases taken

end Diary

namespace Trial

open Diary

structure Mirrors (t : Trial) (s : Diary Nat) : Prop where
  now : s.now = t.now
  debouncer : s.debouncer = t.debouncer
  starts : Log.starts s.log = t.starts

def Leads (t t' : Trial) : Prop :=
  ∀ s, Mirrors t s → ∃ s', ReflTransGen Step s s' ∧ Mirrors t' s'

variable {t t' t'' : Trial}

private theorem Leads.refl (t : Trial) : Leads t t := fun s mirrors => ⟨s, .refl, mirrors⟩

theorem Leads.trans (first : Leads t t') (second : Leads t' t'') : Leads t t'' := by
  intro s mirrors
  obtain ⟨middle, steps, mirrors⟩ := first s mirrors
  obtain ⟨s', more, mirrors⟩ := second middle mirrors
  exact ⟨s', steps.trans more, mirrors⟩

private theorem leads_elapse {time : Nat} (later : t.now ≤ time) :
    Leads t { t with now := time } := by
  intro s mirrors
  have ahead : s.now ≤ time := mirrors.now ▸ later
  exact ⟨_, .single (.elapse ahead), rfl, mirrors.debouncer, mirrors.starts⟩

private theorem leads_finish (t : Trial) :
    Leads t { t with debouncer := t.debouncer.finishRun, runEnd := none } := by
  intro s mirrors
  have finished := congrArg finishRun mirrors.debouncer
  cases phase : s.debouncer.phase with
  | running ending =>
    refine ⟨_, .single (.work (.finish phase)), mirrors.now, finished, ?_⟩
    rw [starts_become, mirrors.starts]
    cases ending <;> simp
  | waiting | stopped =>
    refine ⟨s, .refl, mirrors.now, ?_, mirrors.starts⟩
    rw [← finished, finishRun, phase]

private theorem leads_become {next : Debouncer Nat}
    (taken : t.debouncer.advance? t.now = some next) : Leads t (t.become next) := by
  intro s mirrors
  obtain ⟨now, debouncer, starts⟩ := mirrors
  rw [← now, ← debouncer] at taken
  obtain ⟨what, work, runs⟩ := work_of_advance taken
  refine ⟨_, .single (.work work), ?_⟩
  cases running : next.isRunning <;> rw [running] at runs
  · rw [become, if_neg (by simp [running])]
    exact ⟨now, rfl, by rw [starts_become, runs, starts]; simp⟩
  · rw [become, if_pos running]
    exact ⟨now, rfl, by rw [starts_become, runs, starts, now]; simp⟩

private theorem leads_step {limit : Nat} (taken : t.step? limit = some t') : Leads t t' := by
  unfold step? at taken
  split at taken
  · obtain rfl := Option.some.inj taken
    exact leads_finish t
  · split at taken
    · next advanced =>
      obtain rfl := Option.some.inj taken
      exact leads_become advanced
    · split at taken
      · split at taken
        · next ahead =>
          obtain rfl := Option.some.inj taken
          exact leads_elapse (Nat.le_of_lt ahead.1)
        · cases taken
      · cases taken

private theorem leads_runUntil (finished : Trial → Bool) (limit steps : Nat) (t : Trial) :
    Leads t (t.runUntil finished limit steps) := by
  induction steps generalizing t with
  | zero => exact .refl t
  | succ steps ih =>
    rw [runUntil]
    split
    · exact .refl t
    · split
      · next taken => exact (leads_step taken).trans (ih _)
      · exact .refl t

private theorem now_le_of_step {limit : Nat} (taken : t.step? limit = some t')
    (le : t.now ≤ limit) : t'.now ≤ limit := by
  unfold step? at taken
  split at taken
  · obtain rfl := Option.some.inj taken
    exact le
  · split at taken
    · next next _ =>
      obtain rfl := Option.some.inj taken
      unfold become
      split <;> exact le
    · split at taken
      · split at taken
        · next ahead =>
          obtain rfl := Option.some.inj taken
          exact ahead.2
        · cases taken
      · cases taken

private theorem now_runUntil_le (finished : Trial → Bool) {limit : Nat} (steps : Nat)
    (le : t.now ≤ limit) : (t.runUntil finished limit steps).now ≤ limit := by
  induction steps generalizing t with
  | zero => exact le
  | succ steps ih =>
    rw [runUntil]
    split
    · exact le
    · split
      · next taken => exact ih (now_le_of_step taken le)
      · exact le

theorem leads_send (t : Trial) (signal : Signal Nat) : Leads t (t.send signal) := by
  intro s ⟨now, debouncer, starts⟩
  have sent : s.debouncer.send signal = (t.send signal).debouncer :=
    congrArg (Debouncer.send · signal) debouncer
  cases closed : s.debouncer.closed with
  | false =>
    refine ⟨_, .single (.send closed signal), now, sent, ?_⟩
    rw [starts_become, starts]
    simp [Trial.send]
  | true =>
    rw [Debouncer.send, if_pos closed] at sent
    exact ⟨s, .refl, now, sent, starts⟩

theorem leads_sleep (t : Trial) (duration : Nat) : Leads t (t.sleep duration) := by
  unfold sleep
  split
  · exact .refl t
  · refine (leads_runUntil _ _ _ t).trans (leads_elapse ?_)
    exact now_runUntil_le _ _ (Nat.le_add_right _ _)

theorem leads_flush (t : Trial) : Leads t t.flush := by
  have asked : Leads t { t with flushes := t.flushes + 1 } :=
    fun s mirrors => ⟨s, .refl, mirrors.now, mirrors.debouncer, mirrors.starts⟩
  exact asked.trans <| (leads_send _ _).trans <|
    (leads_runUntil _ _ _ _).trans (leads_runUntil _ _ _ _)

theorem leads_drop (t : Trial) : Leads t t.drop := by
  intro s ⟨now, debouncer, starts⟩
  have dropped : s.debouncer.close = t.drop.debouncer := congrArg Debouncer.close debouncer
  cases closed : s.debouncer.closed with
  | false =>
    refine ⟨_, .single (.close closed), now, dropped, ?_⟩
    rw [starts_become, starts]
    simp [drop]
  | true =>
    rw [Debouncer.close, ← closed] at dropped
    exact ⟨s, .refl, now, dropped, starts⟩

private theorem mirrors_fresh (timing : Timing) (work : Nat) :
    Mirrors (.fresh timing work) (Diary.fresh timing) := ⟨rfl, rfl, rfl⟩

theorem Leads.reached {timing : Timing} {work : Nat} (leads : Leads (.fresh timing work) t) :
    ∃ s, Reached timing s ∧ Mirrors t s :=
  leads _ (mirrors_fresh timing work)

end Trial

end PromptCanvas.Debouncer

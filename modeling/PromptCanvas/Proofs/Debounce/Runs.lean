import PromptCanvas.Proofs.Debounce.Schedule
import PromptCanvas.Proofs.Debounce.Trial

/-!
The runs of a debouncer.

Each thing that happens is justified by what happened before: a run by a trigger that waits for it,
the answer to a flush and the end of the debouncer by the runs behind every trigger.  A debouncer
whose inbox is closed comes to its end, whatever is still in the inbox.
-/

set_option autoImplicit false
set_option relaxedAutoImplicit false

namespace PromptCanvas.Debouncer

open Log Relation

variable {ι : Type}

def Log.Justified (timing : Timing) (past : Log ι) (time : Nat) : Happening ι → Prop
  | .began cause =>
    begun past = ended past ∧ Pending Happening.isTrigger Happening.isBegin past ∧
      (cause = .timer →
        (∀ earlier, (earlier, .looked .trigger) ∈ past → earlier + timing.quiet ≤ time) ∧
          ∀ earlier before, (earlier, .began before) ∈ past → earlier + timing.spacing ≤ time)
  | .ended => begun past = ended past + 1
  | .answered waiter =>
    Served past ∧ ∃ before after, sent past = before ++ .flush waiter :: after ∧
      looked past = before ++ [.flush waiter]
  | .stopped => Served past ∧ looked past = sent past ∧ ∃ earlier, (earlier, .closed) ∈ past
  | .sent _ | .looked _ | .closed => True

/-- What happens to a debouncer that has not stopped, for a reason. -/
def Log.Rightly (timing : Timing) (past : Log ι) (time : Nat) (what : Happening ι) : Prop :=
  (∀ earlier, (earlier, .stopped) ∉ past) ∧ Justified timing past time what

namespace Diary

variable {s s' : Diary ι} {timing : Timing}

/-- The runs that began, and one more while a run is owed. -/
def runs (s : Diary ι) : Nat := begun s.log + if s.debouncer.deadline.isSome then 1 else 0

section Justification

private theorem Accounted.ready (h : Accounted s) (idle : s.debouncer.isRunning = false)
    (owed : s.debouncer.deadline.isSome = true) :
    begun s.log = ended s.log ∧ Pending Happening.isTrigger Happening.isBegin s.log :=
  ⟨by simpa [idle] using h.runs, h.deadline.mp owed⟩

private theorem Accounted.served (h : Accounted s) (idle : s.debouncer.isRunning = false)
    (clear : s.debouncer.deadline = none) : Served s.log := by
  apply served_of_not_pending
  · rw [← h.deadline]
    simp [clear]
  · rw [← h.running]
    simp [idle]

private theorem Accounted.look (h : Accounted s) (waiter : ι) :
    Accounted (s.become s.debouncer [.looked (.flush waiter)]) := by
  refine h.become ?_ ?_ rfl <;>
    simp

private theorem Accounted.finish (h : Accounted s) (running : s.debouncer.isRunning = true) :
    Accounted (s.become { s.debouncer with phase := .waiting } [.ended]) := by
  refine h.become ?_ ?_ (by rw [running]; rfl) <;>
    simp [isRunning]

private theorem each_become_pair {holds : Log ι → Nat → Happening ι → Prop}
    {d between : Debouncer ι}
    {first second : Happening ι} (each : Each holds s.log) (head : holds s.log s.now first)
    (last : holds (s.become between [first]).log s.now second) :
    Each holds (s.become d [first, second]).log := by
  have both : (s.become d [first, second]).log =
      (s.become between [first]).log ++ [(s.now, second)] := by simp [become]
  rw [both]
  exact (each.append head).append last

end Justification

structure Kept (timing : Timing) (s : Diary ι) : Prop where
  clocked : Clocked s
  posted : Posted s
  accounted : Accounted s
  settled : Settled s
  spaced : Spaced timing s
  rightly : Each (Rightly timing) s.log

private theorem kept_fresh (timing : Timing) : Kept timing (fresh timing : Diary ι) := by
  constructor
  case clocked => exact ⟨by simp [fresh], .nil⟩
  case posted => constructor <;> simp [fresh, idle, sent, looked, Log.answered]
  case accounted => constructor <;> simp [fresh, idle, isRunning, begun, ended]
  case settled => constructor <;> simp [fresh, idle]
  case spaced => constructor <;> simp [fresh, idle]
  case rightly => exact each_nil _

private theorem Kept.unstopped (h : Kept timing s) (phase : s.debouncer.phase ≠ .stopped) :
    ∀ earlier, (earlier, .stopped) ∉ s.log :=
  fun earlier mem => phase (h.settled.stopped.mpr ⟨earlier, mem⟩)

/-- Once a run is over, every trigger that was looked at is served; then a flush may be answered,
and the end may come. -/
private theorem Kept.rightly_finish (h : Kept timing s) {ending : Ending ι}
    (running : s.debouncer.phase = .running ending) :
    Each (Rightly timing)
      (s.become s.debouncer.finishRun (.ended :: Happening.behind ending)).log := by
  have each := h.rightly
  have unstopped := h.unstopped (by simp [running])
  have under : begun s.log = ended s.log + 1 := by
    simpa [isRunning, running] using h.accounted.runs
  have served := (h.accounted.finish (by simp [isRunning, running])).served rfl
    (h.settled.busy (by simp [running]))
  cases ending with
  | resume => exact each.append ⟨unstopped, under⟩
  | acknowledge waiter =>
    obtain ⟨before, looked⟩ := h.settled.flushing waiter running
    refine each_become_pair each ⟨unstopped, under⟩ ⟨by simpa using unstopped, served,
      before, s.debouncer.inbox, ?_, ?_⟩
    · simp [h.posted.fifo, looked, List.filterMap_cons]
    · simp [looked]
  | stop =>
    obtain ⟨closed, inbox⟩ := h.settled.ending (.inl running)
    refine each_become_pair each ⟨unstopped, under⟩ ⟨by simpa using unstopped, served, ?_, ?_⟩
    · simp [h.posted.fifo, inbox, List.filterMap_cons]
    · simpa using h.posted.closed.mp closed

private theorem Kept.rightly_work (h : Kept timing s) (work : Work s s') :
    Each (Rightly timing) s'.log := by
  have each := h.rightly
  cases work with
  | due waiting due =>
    obtain ⟨deadline, eq, past⟩ := exists_of_isDue due
    obtain ⟨alone, owed⟩ := h.accounted.ready (by simp [isRunning, waiting]) (by simp [eq])
    refine each.append ⟨h.unstopped (by simp [waiting]), alone, owed, fun _ => ⟨?_, ?_⟩⟩
    · intro earlier mem
      exact Nat.le_trans (h.spaced.quiet deadline eq earlier mem) past
    · intro earlier before mem
      exact Nat.le_trans (h.spaced.spacing deadline eq earlier before mem) past
  | trigger waiting inbox => exact each.append ⟨h.unstopped (by simp [waiting]), trivial⟩
  | @flush waiter rest waiting inbox owed =>
    have unstopped := h.unstopped (by simp [waiting])
    obtain ⟨alone, waits⟩ := (h.accounted.look waiter).ready (by simp [isRunning, waiting]) owed
    exact each_become_pair each ⟨unstopped, trivial⟩
      ⟨by simpa using unstopped, alone, waits, by simp⟩
  | @answer waiter rest waiting inbox clear =>
    have unstopped := h.unstopped (by simp [waiting])
    have served := (h.accounted.look waiter).served (by simp [isRunning, waiting]) clear
    refine each_become_pair each ⟨unstopped, trivial⟩ ⟨by simpa using unstopped, served,
      Log.looked s.log, rest, ?_, ?_⟩
    · simp [h.posted.fifo, inbox, List.filterMap_cons]
    · simp
  | last waiting inbox closed owed =>
    obtain ⟨alone, waits⟩ := h.accounted.ready (by simp [isRunning, waiting]) owed
    exact each.append ⟨h.unstopped (by simp [waiting]), alone, waits, by simp⟩
  | stop waiting inbox closed clear =>
    have served := h.accounted.served (by simp [isRunning, waiting]) clear
    exact each.append ⟨h.unstopped (by simp [waiting]), served,
      by simp [h.posted.fifo, inbox], h.posted.closed.mp closed⟩
  | finish running => exact h.rightly_finish running

private theorem Kept.rightly_step (h : Kept timing s) (step : Step s s') :
    Each (Rightly timing) s'.log := by
  have running (isOpen : s.debouncer.closed = false) : s.debouncer.phase ≠ .stopped := by
    intro stopped
    have closed := (h.settled.ending (.inr stopped)).1
    simp [isOpen] at closed
  cases step with
  | work work => exact h.rightly_work work
  | send isOpen signal => exact h.rightly.append ⟨h.unstopped (running isOpen), trivial⟩
  | close isOpen => exact h.rightly.append ⟨h.unstopped (running isOpen), trivial⟩
  | elapse later => exact h.rightly

private theorem Kept.step (h : Kept timing s) (step : Step s s') : Kept timing s' where
  clocked := h.clocked.step step
  posted := h.posted.step step
  accounted := h.accounted.step step
  settled := h.settled.step step
  spaced := h.spaced.step h.clocked step
  rightly := h.rightly_step step

private theorem kept_of_reached (reached : Reached timing s) : Kept timing s := by
  induction reached with
  | refl => exact kept_fresh timing
  | tail _ step ih => exact ih.step step

section Closing

/-- At least the number of steps that a debouncer can take with nothing sent to it. -/
def workLeft (s : Diary ι) : Nat :=
  4 * s.debouncer.inbox.length + (if s.debouncer.deadline.isSome then 2 else 0) +
    match s.debouncer.phase with
    | .running _ => 2
    | .waiting => 1
    | .stopped => 0

private theorem workLeft_lt (step : Work s s') : s'.workLeft < s.workLeft := by
  cases step with
  | due waiting due =>
    obtain ⟨deadline, eq, -⟩ := exists_of_isDue due
    simp [workLeft, start, waiting, eq]
  | trigger waiting inbox =>
    simp only [workLeft, debouncer_become, receive, waiting, inbox, List.length_cons,
      Option.isSome_some, if_true]
    split <;> omega
  | flush waiting inbox owed =>
    simp only [workLeft, debouncer_become, receive, start, waiting, inbox, owed,
      List.length_cons, Option.isSome_none, Bool.false_eq_true, if_true, if_false]
    omega
  | answer waiting inbox clear => simp [workLeft, receive, acknowledge, waiting, inbox, clear]
  | last waiting inbox closed owed => simp [workLeft, windUp, start, waiting, inbox, owed]
  | stop waiting inbox closed clear => simp [workLeft, windUp, waiting, inbox, clear]
  | @finish ending running =>
    cases ending <;> simp [workLeft, finishRun, acknowledge, running]

private theorem closed_of_work (step : Work s s') (closed : s.debouncer.closed = true) :
    s'.debouncer.closed = true := by
  cases step with
  | due waiting due => exact closed
  | trigger waiting inbox => exact closed
  | flush waiting inbox owed => simpa [receive, owed, start] using closed
  | answer waiting inbox clear => simpa [receive, clear, acknowledge] using closed
  | last waiting inbox _ owed => simpa [windUp, owed, start] using closed
  | stop waiting inbox _ clear => simpa [windUp, clear] using closed
  | @finish ending running =>
    cases ending <;> simpa [finishRun, acknowledge, running] using closed

private theorem exists_work (closed : s.debouncer.closed = true)
    (phase : s.debouncer.phase ≠ .stopped) : ∃ s', Work s s' := by
  cases eq : s.debouncer.phase with
  | stopped => exact absurd eq phase
  | running ending => exact ⟨_, .finish eq⟩
  | waiting =>
    cases inbox : s.debouncer.inbox with
    | nil =>
      cases deadline : s.debouncer.deadline with
      | none => exact ⟨_, .stop eq inbox closed deadline⟩
      | some due => exact ⟨_, .last eq inbox closed (by simp [deadline])⟩
    | cons signal rest =>
      cases signal with
      | trigger => exact ⟨_, .trigger eq inbox⟩
      | flush waiter =>
        cases deadline : s.debouncer.deadline with
        | none => exact ⟨_, .answer eq inbox deadline⟩
        | some due => exact ⟨_, .flush eq inbox (by simp [deadline])⟩

private theorem stops_of_closed (closed : s.debouncer.closed = true) :
    ∃ s', ReflTransGen Work s s' ∧ s'.debouncer.phase = .stopped := by
  induction left : s.workLeft using Nat.strongRecOn generalizing s with
  | ind amount ih =>
    by_cases phase : s.debouncer.phase = .stopped
    · exact ⟨s, .refl, phase⟩
    · obtain ⟨next, first⟩ := exists_work closed phase
      have less : next.workLeft < amount := left ▸ workLeft_lt first
      obtain ⟨s', rest, stopped⟩ := ih next.workLeft less (closed_of_work first closed) rfl
      exact ⟨s', .head first rest, stopped⟩

private theorem runs_step (step : Step s s') (closed : s.debouncer.closed = true)
    (inbox : s.debouncer.inbox = []) :
    s'.debouncer.closed = true ∧ s'.debouncer.inbox = [] ∧ s'.runs = s.runs := by
  cases step with
  | work work =>
    refine ⟨closed_of_work work closed, ?_⟩
    cases work with
    | due waiting due =>
      obtain ⟨deadline, eq, -⟩ := exists_of_isDue due
      simp [runs, start, inbox, eq]
    | trigger waiting full => simp [inbox] at full
    | flush waiting full owed => simp [inbox] at full
    | answer waiting full clear => simp [inbox] at full
    | last waiting _ closed owed => simp [runs, windUp, start, inbox, owed]
    | stop waiting _ closed clear => simp [runs, windUp, inbox, clear]
    | @finish ending running =>
      cases ending <;>
        simp [runs, finishRun, acknowledge, inbox, running]
  | send isOpen signal => simp [closed] at isOpen
  | close isOpen => simp [closed] at isOpen
  | elapse later => exact ⟨closed, inbox, rfl⟩

private theorem runs_steps (steps : ReflTransGen Step s s') (closed : s.debouncer.closed = true)
    (inbox : s.debouncer.inbox = []) : s'.runs = s.runs := by
  have kept : s'.debouncer.closed = true ∧ s'.debouncer.inbox = [] ∧ s'.runs = s.runs := by
    induction steps with
    | refl => exact ⟨closed, inbox, rfl⟩
    | tail _ step ih =>
      obtain ⟨closed, inbox, same⟩ := runs_step step ih.1 ih.2.1
      exact ⟨closed, inbox, same.trans ih.2.2⟩
  exact kept.2.2

end Closing

/-- Whatever is sent, whenever the inbox is closed and however long the runs take: all that happens
happens for its reason, a looked-at trigger keeps the deadline set until its run begins, and once
nothing is left to look at, a run that is still owed takes place once, and then the end comes. -/
theorem keeps_its_schedule (reached : Reached timing s) :
    Each (Rightly timing) s.log ∧ Clocked s ∧ Accounted s ∧ Posted s ∧
      (s.debouncer.closed = true →
        (∃ s', ReflTransGen Work s s' ∧ s'.debouncer.phase = .stopped) ∧
          (s.debouncer.inbox = [] → ∀ s', ReflTransGen Step s s' →
            s'.debouncer.phase = .stopped →
              begun s'.log = s.runs ∧ ended s'.log = s.runs)) := by
  have kept := kept_of_reached reached
  refine ⟨kept.rightly, kept.clocked, kept.accounted, kept.posted,
    fun closed => ⟨stops_of_closed closed, ?_⟩⟩
  intro inbox s' steps stopped
  have after : Kept timing s' := kept_of_reached (reached.trans steps)
  have clear : s'.debouncer.deadline = none := after.settled.busy (by simp [stopped])
  have same : s'.runs = s.runs := runs_steps steps closed inbox
  have begun_eq : begun s'.log = s.runs := by simpa [runs, clear] using same
  have balance : begun s'.log = ended s'.log := by
    simpa [isRunning, stopped] using after.accounted.runs
  exact ⟨begun_eq, balance ▸ begun_eq⟩

/-- After a run at the deadline and one for a flush, a third is owed when the debouncer is
dropped. -/
def owing : Trial :=
  let once := ((Trial.fresh ⟨100, 1000⟩ 20).send .trigger).sleep 150
  let twice := (once.send .trigger).flush
  ((twice.send .trigger).sleep 5).drop

theorem owing_runs_once_more :
    ∃ s : Diary Nat, Reached ⟨100, 1000⟩ s ∧ s.debouncer.closed = true ∧ s.debouncer.inbox = [] ∧
      begun s.log = 2 ∧ ∃ s', ReflTransGen Work s s' ∧ s'.debouncer.phase = .stopped ∧
        begun s'.log = 3 ∧ ended s'.log = 3 := by
  have leads : Trial.Leads (.fresh ⟨100, 1000⟩ 20) owing :=
    (Trial.leads_send _ _).trans <| (Trial.leads_sleep _ _).trans <|
      (Trial.leads_send _ _).trans <| (Trial.leads_flush _).trans <|
        (Trial.leads_send _ _).trans <| (Trial.leads_sleep _ _).trans (Trial.leads_drop _)
  obtain ⟨s, reached, now, debouncer, starts⟩ := leads.reached
  have closed : s.debouncer.closed = true := by rw [debouncer]; decide
  have inbox : s.debouncer.inbox = [] := by rw [debouncer]; decide
  have owed : s.debouncer.deadline.isSome = true := by rw [debouncer]; decide
  have twice : begun s.log = 2 := by
    rw [← length_starts, starts]
    decide
  obtain ⟨-, -, -, -, closing⟩ := keeps_its_schedule reached
  obtain ⟨⟨s', work, stopped⟩, once⟩ := closing closed
  have steps : ReflTransGen Step s s' := ReflTransGen.mono (fun _ _ => Step.work) _ _ work
  have runs : s.runs = 3 := by rw [runs, twice, if_pos owed]
  have total := once inbox s' steps stopped
  rw [runs] at total
  exact ⟨s, reached, closed, inbox, twice, s', work, stopped, total⟩

end Diary

end PromptCanvas.Debouncer

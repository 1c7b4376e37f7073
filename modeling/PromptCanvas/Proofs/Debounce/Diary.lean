import Mathlib.Logic.Relation
import PromptCanvas.Proofs.Debounce.Log

set_option autoImplicit false
set_option relaxedAutoImplicit false

namespace PromptCanvas.Debouncer

variable {ι : Type}

/-- The time, a debouncer, and what happened to it so far. -/
structure Diary (ι : Type) where
  now : Nat
  debouncer : Debouncer ι
  log : Log ι
  deriving Repr, DecidableEq

namespace Diary

def fresh (timing : Timing) : Diary ι := ⟨0, idle timing, []⟩

/-- Another state of the debouncer, and what happened with that. -/
def become (s : Diary ι) (debouncer : Debouncer ι) (what : List (Happening ι)) : Diary ι :=
  { s with
    debouncer
    log := s.log ++ what.map fun happening => (s.now, happening) }

/-- A step of the debouncer itself. -/
inductive Work : Diary ι → Diary ι → Prop
  | due {s : Diary ι} (waiting : s.debouncer.phase = .waiting)
      (due : s.debouncer.isDue s.now = true) :
      Work s (s.become (s.debouncer.start s.now .resume) [.began .timer])
  | trigger {s : Diary ι} {rest : List (Signal ι)} (waiting : s.debouncer.phase = .waiting)
      (inbox : s.debouncer.inbox = .trigger :: rest) :
      Work s (s.become ({ s.debouncer with inbox := rest }.receive s.now .trigger)
        [.looked .trigger])
  | flush {s : Diary ι} {waiter : ι} {rest : List (Signal ι)}
      (waiting : s.debouncer.phase = .waiting) (inbox : s.debouncer.inbox = .flush waiter :: rest)
      (owed : s.debouncer.deadline.isSome = true) :
      Work s (s.become ({ s.debouncer with inbox := rest }.receive s.now (.flush waiter))
        [.looked (.flush waiter), .began .flush])
  | answer {s : Diary ι} {waiter : ι} {rest : List (Signal ι)}
      (waiting : s.debouncer.phase = .waiting) (inbox : s.debouncer.inbox = .flush waiter :: rest)
      (clear : s.debouncer.deadline = none) :
      Work s (s.become ({ s.debouncer with inbox := rest }.receive s.now (.flush waiter))
        [.looked (.flush waiter), .answered waiter])
  | last {s : Diary ι} (waiting : s.debouncer.phase = .waiting) (inbox : s.debouncer.inbox = [])
      (closed : s.debouncer.closed = true) (owed : s.debouncer.deadline.isSome = true) :
      Work s (s.become (s.debouncer.windUp s.now) [.began .closing])
  | stop {s : Diary ι} (waiting : s.debouncer.phase = .waiting) (inbox : s.debouncer.inbox = [])
      (closed : s.debouncer.closed = true) (clear : s.debouncer.deadline = none) :
      Work s (s.become (s.debouncer.windUp s.now) [.stopped])
  | finish {s : Diary ι} {ending : Ending ι} (running : s.debouncer.phase = .running ending) :
      Work s (s.become s.debouncer.finishRun (.ended :: Happening.behind ending))

/-- A step of the debouncer, or of those around it. -/
inductive Step : Diary ι → Diary ι → Prop
  | work {s s' : Diary ι} (work : Work s s') : Step s s'
  | send {s : Diary ι} (isOpen : s.debouncer.closed = false) (signal : Signal ι) :
      Step s (s.become (s.debouncer.send signal) [.sent signal])
  | close {s : Diary ι} (isOpen : s.debouncer.closed = false) :
      Step s (s.become s.debouncer.close [.closed])
  | elapse {s : Diary ι} {time : Nat} (later : s.now ≤ time) : Step s { s with now := time }

def Reached (timing : Timing) (s : Diary ι) : Prop := Relation.ReflTransGen Step (fresh timing) s

section Become

variable (s : Diary ι) (debouncer : Debouncer ι) (what : List (Happening ι))

@[simp] theorem now_become : (s.become debouncer what).now = s.now := rfl

@[simp] theorem debouncer_become : (s.become debouncer what).debouncer = debouncer := rfl

@[simp] theorem mem_become {time : Nat} {happening : Happening ι} :
    (time, happening) ∈ (s.become debouncer what).log ↔
      (time, happening) ∈ s.log ∨ (happening ∈ what ∧ s.now = time) := by
  simp [become]

@[simp] theorem begun_become :
    Log.begun (s.become debouncer what).log = Log.begun s.log + what.countP Happening.isBegin := by
  rw [become, Log.begun, List.countP_append, List.countP_map]
  rfl

@[simp] theorem ended_become :
    Log.ended (s.become debouncer what).log = Log.ended s.log + what.countP Happening.isEnd := by
  rw [become, Log.ended, List.countP_append, List.countP_map]
  rfl

@[simp] theorem sent_become :
    Log.sent (s.become debouncer what).log = Log.sent s.log ++ what.filterMap Happening.sent? := by
  rw [become, Log.sent, List.filterMap_append, List.filterMap_map]
  rfl

@[simp] theorem looked_become :
    Log.looked (s.become debouncer what).log =
      Log.looked s.log ++ what.filterMap Happening.looked? := by
  rw [become, Log.looked, List.filterMap_append, List.filterMap_map]
  rfl

@[simp] theorem answered_become :
    Log.answered (s.become debouncer what).log =
      Log.answered s.log ++ what.filterMap Happening.answered? := by
  rw [become, Log.answered, List.filterMap_append, List.filterMap_map]
  rfl

@[simp] theorem pending_become {opens closes : Happening ι → Bool} :
    Log.Pending opens closes (s.become debouncer what).log ↔
      Log.Pending opens closes (what.map fun happening => (s.now, happening)) ∨
        (Log.Pending opens closes s.log ∧ ∀ happening ∈ what, closes happening = false) := by
  simp [become, Log.pending_append]

end Become

end Diary

end PromptCanvas.Debouncer

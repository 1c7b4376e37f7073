import Mathlib.Tactic.ByContra
import Mathlib.Tactic.Tauto
import PromptCanvas.Debounce

set_option autoImplicit false
set_option relaxedAutoImplicit false

namespace PromptCanvas.Debouncer

variable {ι : Type}

/-- Why a run began. -/
inductive Cause where
  | timer
  | flush
  | closing
  deriving Repr, DecidableEq

/-- What happens to a debouncer. -/
inductive Happening (ι : Type) where
  | sent (signal : Signal ι)
  | looked (signal : Signal ι)
  | began (cause : Cause)
  | ended
  | answered (waiter : ι)
  | closed
  | stopped
  deriving Repr, DecidableEq

abbrev Log (ι : Type) := List (Nat × Happening ι)

namespace Happening

@[simp] def isTrigger : Happening ι → Bool
  | looked .trigger => true
  | _ => false

@[simp] def isBegin : Happening ι → Bool
  | began _ => true
  | _ => false

@[simp] def isEnd : Happening ι → Bool
  | ended => true
  | _ => false

@[simp] def sent? : Happening ι → Option (Signal ι)
  | sent signal => some signal
  | _ => none

@[simp] def looked? : Happening ι → Option (Signal ι)
  | looked signal => some signal
  | _ => none

@[simp] def answered? : Happening ι → Option ι
  | answered waiter => some waiter
  | _ => none

@[simp] def behind : Ending ι → List (Happening ι)
  | .resume => []
  | .acknowledge waiter => [answered waiter]
  | .stop => [stopped]

end Happening

namespace Log

def begun (log : Log ι) : Nat := log.countP fun entry => entry.2.isBegin

def ended (log : Log ι) : Nat := log.countP fun entry => entry.2.isEnd

def sent (log : Log ι) : List (Signal ι) := log.filterMap fun entry => entry.2.sent?

def looked (log : Log ι) : List (Signal ι) := log.filterMap fun entry => entry.2.looked?

def answered (log : Log ι) : List ι := log.filterMap fun entry => entry.2.answered?

/-- Something that opens, with nothing behind it that closes. -/
def Pending (opens closes : Happening ι → Bool) (log : Log ι) : Prop :=
  ∃ past entry later, log = past ++ entry :: later ∧ opens entry.2 = true ∧
    ∀ behind ∈ later, closes behind.2 = false

/-- Everything that happened has a property with regard to its past. -/
def Each (holds : Log ι → Nat → Happening ι → Prop) (log : Log ι) : Prop :=
  ∀ past time what later, log = past ++ (time, what) :: later → holds past time what

def HasRun (log : Log ι) : Prop :=
  ∃ before start during stop after, log = before ++ start :: during ++ stop :: after ∧
    start.2.isBegin = true ∧ stop.2.isEnd = true

/-- Behind every trigger that was looked at a run has begun and ended. -/
def Served (log : Log ι) : Prop :=
  ∀ past entry later, log = past ++ entry :: later → entry.2.isTrigger = true → HasRun later

section Pending

variable {opens closes : Happening ι → Bool} {log more : Log ι}

@[simp] theorem pending_nil : ¬ Pending opens closes ([] : Log ι) := by
  rintro ⟨past, entry, later, eq, -⟩
  simp at eq

@[simp] theorem pending_cons (entry : Nat × Happening ι) :
    Pending opens closes (entry :: log) ↔
      (opens entry.2 = true ∧ ∀ behind ∈ log, closes behind.2 = false) ∨
        Pending opens closes log := by
  constructor
  · rintro ⟨past, opening, later, eq, opened, unclosed⟩
    cases past with
    | nil =>
      obtain ⟨rfl, rfl⟩ := List.cons.inj eq
      exact .inl ⟨opened, unclosed⟩
    | cons first past =>
      obtain ⟨-, rfl⟩ := List.cons.inj eq
      exact .inr ⟨past, opening, later, rfl, opened, unclosed⟩
  · rintro (⟨opened, unclosed⟩ | ⟨past, opening, later, rfl, rest⟩)
    · exact ⟨[], entry, log, rfl, opened, unclosed⟩
    · exact ⟨entry :: past, opening, later, rfl, rest⟩

theorem pending_append :
    Pending opens closes (log ++ more) ↔
      Pending opens closes more ∨
        (Pending opens closes log ∧ ∀ behind ∈ more, closes behind.2 = false) := by
  induction log with
  | nil => simp
  | cons entry rest ih =>
    rw [List.cons_append, pending_cons, pending_cons, ih, List.forall_mem_append]
    tauto

end Pending

section Each

variable {holds : Log ι → Nat → Happening ι → Prop} {log : Log ι}

theorem each_nil (holds : Log ι → Nat → Happening ι → Prop) : Each holds [] := by
  intro past time what later eq
  simp at eq

theorem Each.append (each : Each holds log) {time : Nat} {what : Happening ι}
    (last : holds log time what) : Each holds (log ++ [(time, what)]) := by
  intro past time' what' later eq
  rcases List.eq_nil_or_concat later with rfl | ⟨front, final, rfl⟩
  · obtain ⟨rfl, same⟩ := List.append_inj' eq rfl
    obtain ⟨rfl, rfl⟩ := Prod.mk.inj (List.singleton_inj.mp same)
    exact last
  · have longer : log ++ [(time, what)] = (past ++ (time', what') :: front) ++ [final] := by
      simpa using eq
    obtain ⟨rfl, -⟩ := List.append_inj' longer rfl
    exact each past time' what' front rfl

end Each

theorem served_of_not_pending {log : Log ι}
    (triggers : ¬ Pending Happening.isTrigger Happening.isBegin log)
    (runs : ¬ Pending Happening.isBegin Happening.isEnd log) : Served log := by
  intro past entry later eq trigger
  have begun : ∃ start ∈ later, start.2.isBegin = true := by
    by_contra none
    exact triggers ⟨past, entry, later, eq, trigger, by simpa using none⟩
  obtain ⟨start, mem, begins⟩ := begun
  obtain ⟨before, rest, rfl⟩ := List.append_of_mem mem
  have ended : ∃ stop ∈ rest, stop.2.isEnd = true := by
    by_contra none
    exact runs ⟨past ++ entry :: before, start, rest, by simp [eq], begins, by simpa using none⟩
  obtain ⟨stop, mem, ends⟩ := ended
  obtain ⟨during, after, rfl⟩ := List.append_of_mem mem
  exact ⟨before, start, during, stop, after, by simp, begins, ends⟩

end Log

end PromptCanvas.Debouncer

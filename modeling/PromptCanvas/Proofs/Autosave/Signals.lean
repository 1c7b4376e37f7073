import PromptCanvas.Autosave

set_option autoImplicit false
set_option relaxedAutoImplicit false

namespace PromptCanvas

namespace Debouncer

variable {ι : Type} {d next : Debouncer ι}

def Owes (d : Debouncer ι) : Prop := .trigger ∈ d.inbox ∨ d.deadline.isSome = true

private theorem owes_send (owes : d.Owes) (signal : Signal ι) : (d.send signal).Owes := by
  unfold send
  split
  · exact owes
  · rcases owes with waits | due
    · exact .inl (List.mem_append_left _ waits)
    · exact .inr due

private theorem owes_send_trigger (isOpen : d.closed = false) : (d.send .trigger).Owes := by
  rw [send, if_neg (ne_true_of_eq_false isOpen)]
  exact .inl (List.mem_append_right _ List.mem_cons_self)

private theorem closed_send (d : Debouncer ι) (signal : Signal ι) :
    (d.send signal).closed = d.closed := by
  unfold send
  split <;> rfl

theorem closed_receive (d : Debouncer ι) (now : Nat) (signal : Signal ι) :
    (d.receive now signal).closed = d.closed := by
  cases signal with
  | trigger => rfl
  | flush waiter =>
    rw [receive]
    split <;> rfl

theorem owes_receive {signal : Signal ι} {rest : List (Signal ι)} {now : Nat} (owes : d.Owes)
    (inbox : d.inbox = signal :: rest) :
    ({ d with inbox := rest }.receive now signal).Owes ∨
      ({ d with inbox := rest }.receive now signal).isRunning = true := by
  cases signal with
  | trigger => exact .inl (.inr rfl)
  | flush waiter =>
    rw [receive]
    split
    · exact .inr rfl
    · next undue =>
      rcases owes with waits | due
      · rw [inbox] at waits
        rcases List.mem_cons.mp waits with other | later
        · cases other
        · exact .inl (.inl later)
      · exact absurd due undue

theorem owes_advance {now : Nat} (step : d.advance? now = some next) (owes : d.Owes) :
    next.Owes ∨ next.isRunning = true := by
  unfold advance? at step
  split at step
  · split at step
    · obtain rfl := Option.some.inj step
      exact .inr rfl
    · split at step
      · next signal rest inbox =>
        obtain rfl := Option.some.inj step
        exact owes_receive owes inbox
      · next inbox =>
        split at step
        · obtain rfl := Option.some.inj step
          rcases owes with waits | due
          · rw [inbox] at waits
            cases waits
          · rw [windUp, if_pos due]
            exact .inr rfl
        · cases step
  · cases step

theorem closed_advance {now : Nat} (step : d.advance? now = some next) :
    next.closed = d.closed := by
  unfold advance? at step
  split at step
  · split at step
    · obtain rfl := Option.some.inj step
      rfl
    · split at step
      · obtain rfl := Option.some.inj step
        rw [closed_receive]
      · split at step
        · obtain rfl := Option.some.inj step
          unfold windUp
          split <;> rfl
        · cases step
  · cases step

theorem finishRun_frame (d : Debouncer ι) :
    d.finishRun.inbox = d.inbox ∧ d.finishRun.deadline = d.deadline ∧
      d.finishRun.closed = d.closed := by
  unfold finishRun
  split <;> exact ⟨rfl, rfl, rfl⟩

end Debouncer

namespace Autosaver

variable {a b c : Autosaver}

/-- The autosaver after some announcements: each that asks for a save is a trigger. -/
def hear (a : Autosaver) (announced : List Announcement) : Autosaver :=
  (a.triggers announced).foldl (fun a kind => (a.signal kind .trigger).2) a

structure Told (a b : Autosaver) : Prop where
  armed : b.armed = a.armed
  lock : b.lock = a.lock
  task : b.scene.task = a.scene.task
  closed : b.scene.debouncer.closed = a.scene.debouncer.closed
  owes : a.scene.debouncer.Owes → b.scene.debouncer.Owes

private theorem Told.refl (a : Autosaver) : Told a a := ⟨rfl, rfl, rfl, rfl, id⟩

private theorem Told.trans (first : Told a b) (second : Told b c) : Told a c :=
  ⟨second.armed.trans first.armed, second.lock.trans first.lock, second.task.trans first.task,
    second.closed.trans first.closed, fun owes => second.owes (first.owes owes)⟩

theorem told_signal (a : Autosaver) (kind : SaveKind) (signal : Signal Nat) :
    Told a (a.signal kind signal).2 := by
  cases kind with
  | scene =>
    exact ⟨rfl, rfl, rfl, Debouncer.closed_send _ signal,
      fun owes => Debouncer.owes_send owes signal⟩
  | view => exact ⟨rfl, rfl, rfl, rfl, id⟩

private theorem told_triggers (a : Autosaver) (kinds : List SaveKind) :
    Told a (kinds.foldl (fun a kind => (a.signal kind .trigger).2) a) := by
  induction kinds generalizing a with
  | nil => exact .refl a
  | cons kind rest ih => exact (told_signal a kind .trigger).trans (ih _)

theorem told_hear (a : Autosaver) (announced : List Announcement) : Told a (a.hear announced) :=
  told_triggers a _

private theorem owes_triggers {kinds : List SaveKind} (isOpen : a.scene.debouncer.closed = false)
    (mem : .scene ∈ kinds) :
    (kinds.foldl (fun a kind => (a.signal kind .trigger).2) a).scene.debouncer.Owes := by
  induction kinds generalizing a with
  | nil => cases mem
  | cons kind rest ih =>
    rw [List.foldl_cons]
    rcases List.mem_cons.mp mem with rfl | later
    · exact (told_triggers _ rest).owes (Debouncer.owes_send_trigger isOpen)
    · exact ih ((told_signal a kind .trigger).closed.trans isOpen) later

theorem owes_hear {announced : List Announcement} (armed : a.armed = true)
    (isOpen : a.scene.debouncer.closed = false) (mem : .scene ∈ announced.map Announcement.kind) :
    (a.hear announced).scene.debouncer.Owes := by
  refine owes_triggers isOpen ?_
  rw [triggers, if_pos armed]
  obtain ⟨note, there, kind⟩ := List.mem_map.mp mem
  exact List.mem_filterMap.mpr ⟨note, there, by rw [kind, kindOf?]⟩

end Autosaver

end PromptCanvas

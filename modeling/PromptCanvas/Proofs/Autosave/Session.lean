import PromptCanvas.Proofs.Autosave.Unsaved
import PromptCanvas.Session.Step

/-!
The steps of a session are steps of an archive.

An archive that has the store, the autosaver and the clock of a workspace in a session has them
after a step of both: when a store is put back, when a debouncer moves, and when a save goes on.
-/

set_option autoImplicit false
set_option relaxedAutoImplicit false

namespace PromptCanvas.Archive

open Session

/-- An archive has what a workspace of a session works with, and nothing is left to announce. -/
structure Mirrors {α : Type} (a : Archive α) (s : Session α) (w : Nat) : Prop where
  workspace : ∃ workspace, s.workspaces[w]? = some workspace ∧
    workspace.store = a.bench.store ∧ workspace.autosaver = a.saver
  now : s.now = a.bench.now
  metrics : s.metrics = a.bench.metrics
  issued : s.issued = a.bench.issued
  announced : a.bench.store.announced = []

namespace Mirrors

section Plain

variable {α : Type} {a : Archive α} {s s' : Session α} {w : Nat}

private theorem of_eq (h : a.Mirrors s w) (workspaces : s'.workspaces = s.workspaces)
    (now : s'.now = s.now) (metrics : s'.metrics = s.metrics) (issued : s'.issued = s.issued) :
    a.Mirrors s' w := by
  obtain ⟨workspace, now', metrics', issued', announced⟩ := h
  rw [← workspaces] at workspace
  exact ⟨workspace, now.trans now', metrics.trans metrics', issued.trans issued', announced⟩

private theorem congr {b : Archive α} (h : a.Mirrors s w) (bench : b.bench = a.bench)
    (saver : b.saver = a.saver) : b.Mirrors s w := by
  obtain ⟨workspace, now, metrics, issued, announced⟩ := h
  rw [← bench] at workspace now metrics issued announced
  rw [← saver] at workspace
  exact ⟨workspace, now, metrics, issued, announced⟩

private theorem workbench (h : a.Mirrors s w) : s.workbench? w = some a.bench := by
  obtain ⟨⟨workspace, found, store, -⟩, now, metrics, issued, -⟩ := h
  rw [workbench?, found, now, metrics, issued, Option.map_some, store]

private theorem change (h : a.Mirrors s w) {saver : Autosaver} {replace : Workspace α → Workspace α}
    (store : ∀ workspace, (replace workspace).store = workspace.store)
    (replaced : ∀ workspace, workspace.autosaver = a.saver →
      (replace workspace).autosaver = saver) :
    ({ a with saver }).Mirrors (s.changeWorkspace w replace) w := by
  obtain ⟨⟨workspace, found, same, mine⟩, now, metrics, issued, announced⟩ := h
  refine ⟨⟨replace workspace, ?_, (store workspace).trans same, replaced workspace mine⟩,
    now, metrics, issued, announced⟩
  rw [changeWorkspace, List.getElem?_modify_eq, found]
  rfl

private theorem wakeTask (h : a.Mirrors s w) (task : Option Nat) :
    a.Mirrors (s.wakeTask task) w := by
  cases task with
  | none => exact h
  | some id =>
    refine h.of_eq rfl ?_ rfl rfl
    change (s.agenda.wake id).now = s.agenda.now
    unfold Agenda.wake
    split <;> rfl

private theorem signal (h : a.Mirrors s w) (kind : SaveKind) (signal : Signal Nat) :
    ({ a with saver := (a.saver.signal kind signal).2 }).Mirrors (s.signal w kind signal) w := by
  obtain ⟨workspace, found, -, mine⟩ := h.workspace
  have changed : ({ a with saver := (a.saver.signal kind signal).2 }).Mirrors
      (s.changeWorkspace w fun workspace =>
        { workspace with autosaver := (a.saver.signal kind signal).2 }) w :=
    h.change (fun _ => rfl) fun _ _ => rfl
  unfold Session.signal
  simp only [found, mine]
  exact changed.wakeTask (a.saver.signal kind signal).1

private theorem signals (h : a.Mirrors s w) (kinds : List SaveKind) :
    ({ a with
      saver := kinds.foldl (fun saver kind => (saver.signal kind .trigger).2) a.saver }).Mirrors
      (kinds.foldl (fun s kind => s.signal w kind .trigger) s) w := by
  induction kinds generalizing a s with
  | nil => exact h
  | cons kind rest ih => exact ih (h.signal kind .trigger)

private theorem putStore (h : a.Mirrors s w) (store : Store α) :
    (a.putStore store).Mirrors (s.putStore w store) w := by
  obtain ⟨⟨workspace, found, -, mine⟩, now, metrics, issued, -⟩ := h
  have put : (s.changeWorkspace w fun workspace => { workspace with store }).workspaces[w]? =
      some { workspace with store } := by
    rw [changeWorkspace, List.getElem?_modify_eq, found]
    rfl
  have collected : ({ a with bench := { a.bench with store := store.collect.2 } }).Mirrors
      ((s.changeWorkspace w fun workspace => { workspace with store }).changeWorkspace w
        fun workspace => { workspace with store := store.collect.2 }) w := by
    refine ⟨⟨{ workspace with store := store.collect.2 }, ?_, rfl, mine⟩, now, metrics, issued, rfl⟩
    rw [changeWorkspace, List.getElem?_modify_eq, put]
    rfl
  have heard := collected.signals (a.saver.triggers store.collect.1)
  unfold Session.putStore announce
  simp only [put, mine]
  exact heard

end Plain

section Steps

variable {α : Type} {a : Archive α} {s s' : Session α} {w : Nat}

private theorem putDebouncer (h : a.Mirrors s w) (debouncer : Debouncer Nat) :
    (a.putDebouncer debouncer).Mirrors (s.putDebouncer w .scene debouncer) w :=
  h.change (fun _ => rfl) fun workspace mine => by rw [mine]

theorem stepDebouncer (h : a.Mirrors s w) {next : Debouncer Nat}
    (isOpen : a.debouncer.closed = false)
    (moved : a.debouncer.advance? a.bench.now = some next) (id : Nat) :
    (a.advance next).Mirrors (s.stepDebouncer id w .scene).2 w := by
  obtain ⟨workspace, found, -, mine⟩ := h.workspace
  have moved' : (workspace.autosaver.outlet .scene).debouncer.advance? s.now = some next := by
    rw [mine, h.now]
    exact moved
  have rested : a.Mirrors { s with agenda := s.agenda.dropTimers (.task id) } w :=
    h.of_eq rfl rfl rfl rfl
  have put := rested.putDebouncer next
  have kept : (a.advance next).Mirrors
      ({ s with agenda := s.agenda.dropTimers (.task id) }.putDebouncer w .scene next) w := by
    unfold advance
    split
    · obtain ⟨workspace, now, metrics, issued, announced⟩ := put
      exact ⟨workspace, now, metrics, issued, announced⟩
    · exact put
  have nextOpen : next.closed = false := (Debouncer.closed_advance moved).trans isOpen
  unfold Session.stepDebouncer
  simp only [found, moved']
  split
  · exact kept.of_eq rfl rfl rfl rfl
  · split
    · rw [if_neg (ne_true_of_eq_false nextOpen)]
      exact kept.of_eq rfl rfl rfl rfl
    · exact kept

private theorem requestLock (h : a.Mirrors s w) {party : Party} {granted : Option Unit}
    (asked : s.requestLock w party = (granted, s')) :
    ∃ lock, a.saver.lock.request party = (granted.isSome, lock) ∧
      (a.putLock lock).Mirrors s' w := by
  obtain ⟨workspace, found, -, mine⟩ := h.workspace
  cases given : a.saver.lock.request party with
  | mk free lock =>
    have changed : (a.putLock lock).Mirrors
        (s.changeWorkspace w fun workspace =>
          { workspace with autosaver := { workspace.autosaver with lock } }) w :=
      h.change (fun _ => rfl) fun workspace mine => by rw [mine]
    unfold Session.requestLock at asked
    simp only [found, mine, given] at asked
    obtain ⟨rfl, rfl⟩ := Prod.mk.inj asked
    refine ⟨lock, ?_, changed⟩
    cases free <;> rfl

private theorem releaseLock (h : a.Mirrors s w) :
    (a.putLock a.saver.lock.release).Mirrors (s.releaseLock w) w := by
  obtain ⟨workspace, found, -, mine⟩ := h.workspace
  have changed : (a.putLock a.saver.lock.release).Mirrors
      (s.changeWorkspace w fun workspace =>
        { workspace with
          autosaver := { workspace.autosaver with lock := a.saver.lock.release } }) w :=
    h.change (fun _ => rfl) fun workspace mine => by rw [mine]
  unfold Session.releaseLock
  simp only [found, mine]
  exact changed.wakeTask _

private theorem putWorkbench (h : a.Mirrors s w) {b : Workbench α} (store : b.store = a.bench.store)
    (now : b.now = a.bench.now) : ({ a with bench := b }).Mirrors (s.putWorkbench w b) w := by
  obtain ⟨workspace, now', metrics, issued, announced⟩ := h
  have counted : ({ a with
      bench := { a.bench with
        metrics := b.metrics
        issued := b.issued } }).Mirrors
      { s with
        metrics := b.metrics
        issued := b.issued } w :=
    ⟨workspace, now', rfl, rfl, announced⟩
  have put := counted.putStore b.store
  have quiet : b.store.announced = [] := by rw [store, announced]
  have silent : a.saver.hear b.store.collect.1 = a.saver := by
    rw [Store.collect, quiet, Autosaver.hear, Autosaver.triggers]
    split <;> rfl
  have collected : b.store.collect.2 = b.store := by rw [Store.collect, ← quiet]
  refine put.congr ?_ silent.symm
  change b = ⟨a.bench.now, b.store.collect.2, b.metrics, b.issued⟩
  rw [collected, ← now]

end Steps

section Saves

variable {α : Type} [Scalar α] {policy : RetryPolicy α} {a : Archive α} {s s' : Session α} {w : Nat}

private theorem answer (h : a.Mirrors s w) {party : Party} (stage : SaveStage α)
    {reply : stage.ask.Answer} (answered : s.answer w party stage.ask = (some reply, s')) :
    ∃ lock, a.Answers party stage.ask lock ∧ (a.putLock lock).Mirrors s' w := by
  have same : (a.putLock a.saver.lock).Mirrors s w := h
  cases stage with
  | opening kind =>
    cases kind with
    | scene =>
      obtain ⟨lock, given, mirrors⟩ := h.requestLock answered
      exact ⟨lock, .lock given, mirrors⟩
    | view =>
      obtain ⟨-, rfl⟩ := Prod.mk.inj answered
      exact ⟨_, .go, same⟩
  | sending cargo tries =>
    cases cargo with
    | scene snapshot =>
      obtain ⟨-, rfl⟩ := Prod.mk.inj answered
      exact ⟨_, .saveScene snapshot, same.of_eq rfl rfl rfl rfl⟩
    | view view key =>
      obtain ⟨-, rfl⟩ := Prod.mk.inj answered
      exact ⟨_, .saveView view key, same.of_eq rfl rfl rfl rfl⟩
  | resting cargo tries wake =>
    change s.restUntil party [wake] = _ at answered
    unfold restUntil at answered
    split at answered
    · next due =>
      obtain ⟨-, rfl⟩ := Prod.mk.inj answered
      refine ⟨_, .rest ⟨wake, List.mem_cons_self, ?_⟩, same⟩
      rw [← h.now]
      simpa using due
    · cases (Prod.mk.inj answered).1
  | closing cargo failure =>
    cases cargo with
    | scene snapshot =>
      obtain ⟨-, rfl⟩ := Prod.mk.inj answered
      exact ⟨_, .unlock, h.releaseLock⟩
    | view view key =>
      obtain ⟨-, rfl⟩ := Prod.mk.inj answered
      exact ⟨_, .go, same⟩

theorem drive (h : a.Mirrors s w) {save : SceneSave α}
    {progress : Progress (SaveStage α) (SaveResult α)}
    (driven : s.drive w save.party save.stage.ask
      (fun b reply => save.stage.resume policy b reply) = (some progress, s')) :
    ∃ lock answer, a.Answers save.party save.stage.ask lock ∧
      progress = (save.stage.resume policy a.bench answer).1 ∧
      (a.work policy save lock answer).Mirrors s' w := by
  unfold Session.drive at driven
  cases answered : s.answer w save.party save.stage.ask with
  | mk given s₁ =>
    cases given with
    | none =>
      simp only [answered] at driven
      cases (Prod.mk.inj driven).1
    | some reply =>
      obtain ⟨lock, answers, mirrors⟩ := h.answer save.stage answered
      simp only [answered, mirrors.workbench] at driven
      obtain ⟨progressed, rfl⟩ := Prod.mk.inj driven
      refine ⟨lock, reply, answers, (Option.some.inj progressed).symm, ?_⟩
      obtain ⟨store, now⟩ := SaveStage.resume_keeps policy a.bench reply
      exact (mirrors.putWorkbench store now).congr rfl rfl

end Saves

end Mirrors

end PromptCanvas.Archive

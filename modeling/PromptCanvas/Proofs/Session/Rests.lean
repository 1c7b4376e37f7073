import PromptCanvas.Session

set_option autoImplicit false
set_option relaxedAutoImplicit false

namespace PromptCanvas

def Workspace.watched {α : Type} (w : Workspace α) : Scene α × List Nat :=
  (w.store.scene, w.followers)

namespace Session

section Plain

variable {α : Type} {s t u : Session α} {w : Nat}

structure Rests (s t : Session α) : Prop where
  tasks : t.tasks = s.tasks
  results : t.results = s.results
  workspaces : t.workspaces.map Workspace.watched = s.workspaces.map Workspace.watched

private theorem rests_refl (s : Session α) : s.Rests s := ⟨rfl, rfl, rfl⟩

theorem Rests.trans (first : s.Rests t) (second : t.Rests u) : s.Rests u :=
  ⟨second.tasks.trans first.tasks, second.results.trans first.results,
    second.workspaces.trans first.workspaces⟩

theorem Rests.exists_watched {workspace : Workspace α} (rests : s.Rests t)
    (found : s.workspaces[w]? = some workspace) :
    ∃ workspace', t.workspaces[w]? = some workspace' ∧ workspace'.watched = workspace.watched := by
  have watched : (t.workspaces[w]?).map Workspace.watched = some workspace.watched := by
    rw [← List.getElem?_map, rests.workspaces, List.getElem?_map, found]
    rfl
  exact Option.map_eq_some_iff.mp watched

section Views

variable {β : Type} {view : Workspace α → β}

private theorem map_changeWorkspace {change : Workspace α → Workspace α}
    (same : ∀ workspace, s.workspaces[w]? = some workspace →
      view (change workspace) = view workspace) :
    (s.changeWorkspace w change).workspaces.map view = s.workspaces.map view := by
  refine List.ext_getElem? fun i => ?_
  rw [changeWorkspace, List.getElem?_map, List.getElem?_map, List.getElem?_modify]
  cases found : s.workspaces[i]? with
  | none => rfl
  | some workspace =>
    by_cases here : w = i
    · subst here
      simp [same workspace found]
    · simp [here]

theorem exists_wakeTask (s : Session α) (task : Option Nat) :
    ∃ agenda, s.wakeTask task = { s with agenda } := by
  cases task <;> exact ⟨_, rfl⟩

private theorem exists_signal (s : Session α) (w : Nat) (kind : SaveKind) (signal : Signal Nat) :
    ∃ workspaces agenda, s.signal w kind signal = { s with workspaces, agenda } := by
  unfold Session.signal
  split
  · exact ⟨_, _, rfl⟩
  · obtain ⟨agenda, eq⟩ := exists_wakeTask (s.changeWorkspace w _) _
    exact ⟨_, agenda, eq⟩

theorem exists_announce (s : Session α) (w : Nat) :
    ∃ workspaces agenda, s.announce w = { s with workspaces, agenda } := by
  have signals (kinds : List SaveKind) (s : Session α) : ∃ workspaces agenda,
      kinds.foldl (fun s kind => s.signal w kind .trigger) s = { s with workspaces, agenda } := by
    induction kinds generalizing s with
    | nil => exact ⟨_, _, rfl⟩
    | cons kind rest ih =>
      obtain ⟨workspaces, agenda, eq⟩ := s.exists_signal w kind .trigger
      obtain ⟨workspaces', agenda', eq'⟩ := ih (s.signal w kind .trigger)
      refine ⟨workspaces', agenda', ?_⟩
      rw [List.foldl_cons, eq', eq]
  unfold announce
  split
  · exact ⟨_, _, rfl⟩
  · next workspace _ =>
    obtain ⟨workspaces, agenda, eq⟩ := signals
      (workspace.autosaver.triggers workspace.store.collect.1)
      (s.changeWorkspace w fun other => { other with store := workspace.store.collect.2 })
    exact ⟨workspaces, agenda, eq⟩

private theorem map_signal (view : Workspace α → β)
    (saver : ∀ (workspace : Workspace α) autosaver,
      view { workspace with autosaver } = view workspace)
    (s : Session α) (kind : SaveKind) (signal : Signal Nat) :
    (s.signal w kind signal).workspaces.map view = s.workspaces.map view := by
  unfold Session.signal
  split
  · rfl
  · next workspace _ =>
    obtain ⟨task, autosaver⟩ := workspace.autosaver.signal kind signal
    obtain ⟨agenda, eq⟩ :=
      exists_wakeTask (s.changeWorkspace w fun other => { other with autosaver }) task
    dsimp only
    rw [eq]
    exact map_changeWorkspace fun other _ => saver other autosaver

theorem map_announce (view : Workspace α → β)
    (saver : ∀ (workspace : Workspace α) autosaver,
      view { workspace with autosaver } = view workspace)
    (collected : ∀ workspace : Workspace α,
      view { workspace with store := workspace.store.collect.2 } = view workspace)
    (s : Session α) (w : Nat) :
    (s.announce w).workspaces.map view = s.workspaces.map view := by
  have signals (kinds : List SaveKind) (s : Session α) :
      (kinds.foldl (fun s kind => s.signal w kind .trigger) s).workspaces.map view =
        s.workspaces.map view := by
    induction kinds generalizing s with
    | nil => rfl
    | cons kind rest ih => exact (ih _).trans (map_signal view saver s kind .trigger)
  unfold announce
  split
  · rfl
  · next workspace found =>
    refine (signals _ _).trans (map_changeWorkspace fun workspace' found' => ?_)
    obtain rfl := Option.some.inj (found.symm.trans found')
    exact collected workspace

end Views

private theorem rests_changeWorkspace {change : Workspace α → Workspace α}
    (same : ∀ workspace, s.workspaces[w]? = some workspace →
      (change workspace).watched = workspace.watched) :
    s.Rests (s.changeWorkspace w change) :=
  ⟨rfl, rfl, map_changeWorkspace same⟩

private theorem rests_autosaver (s : Session α) (w : Nat) (autosaver : Autosaver) :
    s.Rests (s.changeWorkspace w fun workspace => { workspace with autosaver }) :=
  rests_changeWorkspace fun _ _ => rfl

private theorem rests_wakeTask (s : Session α) (task : Option Nat) : s.Rests (s.wakeTask task) := by
  cases task <;> exact ⟨rfl, rfl, rfl⟩

theorem rests_announce (s : Session α) (w : Nat) : s.Rests (s.announce w) := by
  obtain ⟨workspaces, agenda, eq⟩ := s.exists_announce w
  have kept := map_announce Workspace.watched (fun _ _ => rfl) (fun _ => rfl) s w
  rw [eq] at kept ⊢
  exact ⟨rfl, rfl, kept⟩

private theorem rests_reap (s : Session α) (w : Nat) : s.Rests (s.reap w) := by
  unfold reap
  split
  · exact s.rests_refl
  · split
    · exact s.rests_refl
    · exact ((s.rests_autosaver w _).trans (rests_wakeTask _ _)).trans (rests_wakeTask _ _)

theorem rests_leaveWorkspace (s : Session α) : s.Rests s.leaveWorkspace := by
  unfold leaveWorkspace
  split
  · exact s.rests_refl
  · next w _ =>
    have letGo : s.Rests { s with current := none } := ⟨rfl, rfl, rfl⟩
    have unheld : { s with current := none }.Rests ({ s with current := none }.changeWorkspace w
        fun workspace => { workspace with held := false }) :=
      rests_changeWorkspace fun _ _ => rfl
    exact (letGo.trans unheld).trans (rests_reap _ w)

end Plain

theorem rests_answer {α : Type} [Scalar α] (s : Session α) (w : Nat) (party : Party)
    (ask : Ask α) : s.Rests (s.answer w party ask).2 := by
  have locks (lock : SaveLock) : s.Rests (s.changeWorkspace w fun workspace =>
      { workspace with autosaver := { workspace.autosaver with lock } }) :=
    rests_changeWorkspace fun _ _ => rfl
  cases ask with
  | lock =>
    rw [answer, requestLock]
    split
    · exact s.rests_refl
    · exact locks _
  | unlock =>
    rw [answer, releaseLock]
    split
    · exact s.rests_refl
    · exact (locks _).trans (rests_wakeTask _ _)
  | rest wakes =>
    rw [answer, restUntil]
    split <;> exact ⟨rfl, rfl, rfl⟩
  | go | upload | saveScene | saveView | createRun | subscribe | next | leave =>
    exact ⟨rfl, rfl, rfl⟩

end Session

end PromptCanvas

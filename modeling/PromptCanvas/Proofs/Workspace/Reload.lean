import PromptCanvas.Proofs.Workspace.Following
import PromptCanvas.Proofs.Workspace.Opening

set_option autoImplicit false
set_option relaxedAutoImplicit false

namespace PromptCanvas

open Relation (ReflTransGen)

def Scene.waitingKeys {α : Type} (s : Scene α) : List Key :=
  (s.elements.filter Element.isRunning).map Element.key

namespace Session

section Plain

variable {α : Type} {s t : Session α} {w : Nat}

def join (w : Nat) (joined : List Nat × Session α) (f : Followed) : List Nat × Session α :=
  let (id, s) := joined.2.spawn w (.follower f .subscribing)
  (joined.1 ++ [id], s)

private theorem exists_joined (w : Nat) (followed : List Followed) (ids : List Nat)
    (s : Session α) :
    ∃ t : Session α, ∃ new : List (TaskEntry α),
      followed.foldl (join w) (ids, s) =
        (ids ++ (new.filterMap (TaskEntry.follower? w)).map Prod.fst, t) ∧
      t.tasks = s.tasks ++ new ∧ t.workspaces = s.workspaces ∧
      TaskEntry.followers w new = followed.map fun f => (f, .subscribing) := by
  induction followed generalizing ids s with
  | nil => exact ⟨s, [], by simp, by simp, rfl, rfl⟩
  | cons f rest ih =>
    obtain ⟨t, new, folded, tasks, workspaces, begun⟩ :=
      ih (ids ++ [s.numbered]) (s.spawn w (.follower f .subscribing)).2
    have first := TaskEntry.follower?_eq (α := α) s.numbered w f .subscribing
    refine ⟨t, ⟨s.numbered, w, .follower f .subscribing⟩ :: new, ?_, ?_, workspaces, ?_⟩
    · rw [List.filterMap_cons_some first]
      exact folded.trans (by simp)
    · exact tasks.trans (by simp [spawn, number])
    · rw [TaskEntry.followers_cons, begun, List.map_cons]

/-- A session has taken a workspace into use, and follows runs for it. -/
structure Entered (s t : Session α) (opened : Opened α) (workspace : Workspace α) : Prop where
  current : t.current = some s.workspaces.length
  found : t.workspaces[s.workspaces.length]? = some workspace
  scene : workspace.store.scene = opened.store.scene
  /-- The new tasks follow the runs, one task each, and the workspace knows their numbers. -/
  followers : ∃ new : List (TaskEntry α), t.tasks = s.tasks ++ new ∧
    (new.filterMap (TaskEntry.follower? s.workspaces.length)).map Prod.fst = workspace.followers ∧
    TaskEntry.followers s.workspaces.length new =
      opened.followed.map fun f => (f, .subscribing)

def moveIn (s : Session α) (settings : Settings α) (opened : Opened α) : Session α :=
  let w := s.workspaces.length
  let scene := s.spawn w (.saver .scene none)
  let view := scene.2.spawn w (.saver .view none)
  let joined := opened.followed.foldl (join w) ([], view.2)
  let workspace : Workspace α :=
    { settings
      store := opened.store
      queue := JobQueue.ofLimit settings.maxConcurrency
      autosaver := Autosaver.ofSettings settings scene.1 view.1
      followers := joined.1
      held := true }
  { joined.2 with workspaces := joined.2.workspaces ++ [workspace] }

private theorem enter_eq (s : Session α) (settings : Settings α) (opened : Opened α) :
    s.enter settings opened =
      { ((s.moveIn settings opened).announce s.workspaces.length).leaveWorkspace with
        current := some s.workspaces.length } :=
  rfl

private theorem rests_enter (s : Session α) (settings : Settings α) (opened : Opened α) :
    (s.moveIn settings opened).Rests (s.enter settings opened) := by
  rw [enter_eq]
  exact ((rests_announce _ _).trans (rests_leaveWorkspace _)).trans ⟨rfl, rfl, rfl⟩

private theorem exists_moved (s : Session α) (settings : Settings α) (opened : Opened α) :
    ∃ workspace : Workspace α, ∃ new : List (TaskEntry α),
      (s.moveIn settings opened).workspaces = s.workspaces ++ [workspace] ∧
      workspace.store = opened.store ∧ (s.moveIn settings opened).tasks = s.tasks ++ new ∧
      (new.filterMap (TaskEntry.follower? s.workspaces.length)).map Prod.fst =
        workspace.followers ∧
      TaskEntry.followers s.workspaces.length new =
        opened.followed.map fun f => (f, .subscribing) := by
  obtain ⟨t, new, joined, tasks, workspaces, begun⟩ :=
    exists_joined s.workspaces.length opened.followed []
      ((s.spawn s.workspaces.length (.saver .scene none)).2.spawn s.workspaces.length
        (.saver .view none)).2
  simp only [moveIn, joined, workspaces, tasks]
  simp only [spawn, number, List.append_assoc]
  exact ⟨_, _, rfl, rfl, rfl, rfl, begun⟩

private theorem entered_enter (s : Session α) (settings : Settings α) (opened : Opened α) :
    ∃ workspace, s.Entered (s.enter settings opened) opened workspace := by
  obtain ⟨workspace, new, workspaces, store, tasks, ids, begun⟩ := s.exists_moved settings opened
  have rests := s.rests_enter settings opened
  have found : (s.moveIn settings opened).workspaces[s.workspaces.length]? = some workspace := by
    rw [workspaces]
    exact List.getElem?_concat_length
  obtain ⟨workspace', found', same⟩ := rests.exists_watched found
  obtain ⟨scene, followers⟩ := Prod.mk.inj same
  refine ⟨workspace', rfl, found', scene.trans (congrArg Store.scene store), new,
    rests.tasks.trans tasks, ids.trans followers.symm, begun⟩

/-- Where no task works in a workspace that is not there yet, a watch begins with the workspace. -/
theorem Entered.mirrors {opened : Opened α} {workspace : Workspace α} {b : Workbench α}
    (entered : s.Entered t opened workspace)
    (none : TaskEntry.followers s.workspaces.length s.tasks = [])
    (bench : b.store.scene = workspace.store.scene) :
    (Watch.start b opened.followed).Mirrors t s.workspaces.length := by
  obtain ⟨new, tasks, -, begun⟩ := entered.followers
  refine ⟨⟨workspace, entered.found, bench.symm⟩, ?_⟩
  rw [tasks, TaskEntry.followers_append, none, begun]
  rfl

end Plain

variable {α : Type} [Scalar α]

private theorem openWorkspace_eq {s : Session α} {loaded : LoadedScene α} (settings : Settings α)
    (offered : s.services.offered.generation = true) (read : s.services.memory.load = .ok loaded) :
    s.openWorkspace settings =
      (.ok (Workspace.load settings true loaded s.services.memory.assets).report,
        s.enter settings (Workspace.load settings true loaded s.services.memory.assets)) := by
  simp only [openWorkspace, read, offered]

/-- Opening a workspace accounts for each image of the saved scene that waits.  One that does not
know its run has failed when opening returns; any other has one follower, and when the followers
have returned, with whatever their streams brought and in whatever order, it does not wait any more.
Nothing else is changed. -/
theorem reload_accounts_for_waiting (s : Session α) (settings : Settings α) {loaded : LoadedScene α}
    (offered : s.services.offered.generation = true) (read : s.services.memory.load = .ok loaded) :
    let scene := (Workspace.restored loaded s.services.memory.assets).scene
    let opened := Workspace.load settings true loaded s.services.memory.assets
    ∃ workspace s', s.openWorkspace settings = (.ok opened.report, s') ∧
      s.Entered s' opened workspace ∧ Workspace.Accounts settings scene opened ∧
      ∀ (b : Workbench α) (w : Watch α), b.store.scene = workspace.store.scene →
        ReflTransGen (Watch.Step scene.waitingKeys) (Watch.start b opened.followed) w →
        w.followers = [] → ∀ e ∈ scene.elements, e.isRunning = true →
          w.bench.store.scene.isRunning e.key = false := by
  intro scene opened
  have accounts := Workspace.accounts_load settings loaded s.services.memory.assets
  obtain ⟨workspace, entered⟩ := s.entered_enter settings opened
  refine ⟨workspace, _, openWorkspace_eq settings offered read, entered, accounts, ?_⟩
  intro b w same run returned e mem running
  have watched : e.key ∈ scene.waitingKeys :=
    List.mem_map_of_mem (List.mem_filter.mpr ⟨mem, running⟩)
  have minds : (Watch.start b opened.followed).Minds e.key := by
    intro waits
    have waits' : opened.store.scene.isRunning e.key = true := by
      rw [← entered.scene, ← same]
      exact waits
    obtain ⟨f, followed, own⟩ := accounts.exists_follower waits'
    exact ⟨(f, .subscribing), List.mem_map_of_mem followed, own, rfl⟩
  exact (minds.run watched run).idle returned

def waitingFox : Document Float :=
  ⟨2, [⟨0, ⟨⟨"fox"⟩, ⟨8.0, 8.0, 64.0, 32.0⟩, none,
    .image { (Image.ofSrc "" : Image Float) with status := .running, runId := some "run-1" }⟩⟩],
    .none, 0⟩

def foxSession : Session Float :=
  .ofServices (.ofMemory { Memory.empty 0 with scene := some waitingFox.toJson })

private theorem restored_waitingFox :
    ∃ e, (Workspace.restored ⟨some waitingFox.toJson, none⟩ []).scene.elements = [e] ∧
      e.key = ⟨"fox"⟩ ∧ e.isRunning = true ∧
      Workspace.waitingImage? e = some (⟨"fox"⟩, some "run-1") := by
  have read : Document.ofJson? waitingFox.toJson = some waitingFox := rfl
  have current : Document.isCurrent waitingFox.toJson = true := rfl
  have version : waitingFox.schemaVersion = Document.currentVersion := rfl
  have alone : Document.stacked waitingFox.elements = waitingFox.elements :=
    List.mergeSort_singleton _
  simp only [Workspace.restored, Document.restoreValue, if_pos current, read, Document.restore,
    if_pos version, Document.restoreElements, alone]
  exact ⟨_, rfl, rfl, rfl, rfl⟩

theorem fox_taken_up_again :
    foxSession.services.offered.generation = true ∧
      foxSession.services.memory.load = .ok ⟨some waitingFox.toJson, none⟩ ∧
      ∃ report workspace s', foxSession.openWorkspace .standard = (.ok report, s') ∧
        s'.workspaces[0]? = some workspace ∧
        report.elements = 1 ∧ report.resumed = 1 ∧ report.interrupted = 0 ∧
        ∃ w, ReflTransGen (Watch.Step [⟨"fox"⟩])
            (Watch.start ⟨0, workspace.store, Metrics.none, 0⟩ [⟨⟨"fox"⟩, "run-1", 600000⟩]) w ∧
          w.followers = [] ∧ w.bench.store.scene.isRunning ⟨"fox"⟩ = false := by
  have read : foxSession.services.memory.load = .ok ⟨some waitingFox.toJson, none⟩ := rfl
  obtain ⟨workspace, s', went, entered, accounts, settled⟩ :=
    foxSession.reload_accounts_for_waiting .standard rfl read
  obtain ⟨e, alone, key, running, counted⟩ := restored_waitingFox
  have elements : (Workspace.restored ⟨some waitingFox.toJson, none⟩
      foxSession.services.memory.assets).scene.elements = [e] := alone
  have waiting := accounts.waiting
  have each := accounts.each
  rw [elements] at each waiting
  have followed := Workspace.followed_load .standard ⟨some waitingFox.toJson, none⟩
    foxSession.services.memory.assets
  rw [Workspace.waitingImages, elements, List.filterMap_cons_some counted] at followed
  have followed' : (Workspace.load .standard true ⟨some waitingFox.toJson, none⟩
    foxSession.services.memory.assets).followed = [⟨⟨"fox"⟩, "run-1", 600000⟩] := followed
  have resumed := accounts.resumed
  rw [followed'] at resumed
  rw [resumed, List.filter_cons_of_pos running] at waiting
  have keys : (Workspace.restored ⟨some waitingFox.toJson, none⟩
    foxSession.services.memory.assets).scene.waitingKeys = [⟨"fox"⟩] := by
    rw [Scene.waitingKeys, elements, List.filter_cons_of_pos running, List.map_cons, key]
    rfl
  rw [keys, followed'] at settled
  obtain ⟨w, run, returned⟩ := Watch.exists_returned [⟨"fox"⟩] ⟨0, workspace.store, Metrics.none, 0⟩
    ⟨⟨"fox"⟩, "run-1", 600000⟩
  have idle := settled _ w rfl run returned e (by rw [elements]; exact List.mem_singleton_self e)
    running
  rw [key] at idle
  refine ⟨rfl, read, _, workspace, s', went, entered.found, ?_, resumed, ?_, w, run, returned, idle⟩
  · rw [accounts.elements, Scene.size, elements]
    rfl
  · exact Nat.add_left_cancel waiting

end Session

end PromptCanvas

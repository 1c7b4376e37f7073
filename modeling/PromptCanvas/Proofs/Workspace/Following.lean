import PromptCanvas.Proofs.Run.Watch
import PromptCanvas.Proofs.Session.Rests

set_option autoImplicit false
set_option relaxedAutoImplicit false

namespace PromptCanvas

open Relation (ReflTransGen)

/-- The follower that a task is in a workspace, with the number of the task. -/
def TaskEntry.follower? {α : Type} (w : Nat) (t : TaskEntry α) :
    Option (Nat × Followed × FollowStage α) :=
  match t.task with
  | .follower f stage => if t.workspace = w then some (t.id, f, stage) else none
  | .job .. | .saver .. => none

theorem TaskEntry.follower?_eq {α : Type} (id w : Nat) (f : Followed) (stage : FollowStage α) :
    TaskEntry.follower? w ⟨id, w, .follower f stage⟩ = some (id, f, stage) :=
  if_pos rfl

/-- The followers among some tasks, each with how far it is. -/
def TaskEntry.followers {α : Type} (w : Nat) (tasks : List (TaskEntry α)) :
    List (Followed × FollowStage α) :=
  (tasks.filterMap (TaskEntry.follower? w)).map Prod.snd

theorem TaskEntry.followers_append {α : Type} (w : Nat) (before after : List (TaskEntry α)) :
    TaskEntry.followers w (before ++ after) =
      TaskEntry.followers w before ++ TaskEntry.followers w after := by
  rw [followers, List.filterMap_append, List.map_append]
  rfl

theorem TaskEntry.followers_cons {α : Type} (id w : Nat) (f : Followed) (stage : FollowStage α)
    (after : List (TaskEntry α)) :
    TaskEntry.followers w (⟨id, w, .follower f stage⟩ :: after) =
      (f, stage) :: TaskEntry.followers w after := by
  rw [followers, List.filterMap_cons_some (TaskEntry.follower?_eq id w f stage), List.map_cons]
  rfl

namespace Session

section Plain

variable {α : Type} {s : Session α} {w : Nat} {before after : List (TaskEntry α)}
  {entry : TaskEntry α}

private theorem tasks_setTask (tasks : s.tasks = before ++ entry :: after)
    (nodup : (s.tasks.map TaskEntry.id).Nodup) (task : Task α) :
    (s.setTask entry.id task).tasks = before ++ { entry with task } :: after := by
  have apart := ne_of_nodup_around (tasks ▸ nodup)
  have kept (part : List (TaskEntry α)) (within : part ⊆ before ++ after) :
      part.map (fun t => if t.id = entry.id then { t with task } else t) = part := by
    refine (List.map_congr_left fun other mem => ?_).trans (List.map_id part)
    exact if_neg (apart other (within mem))
  rw [setTask, tasks, List.map_append, List.map_cons, if_pos rfl,
    kept before (List.subset_append_left _ _), kept after (List.subset_append_right _ _)]

private theorem tasks_endTask (tasks : s.tasks = before ++ entry :: after)
    (nodup : (s.tasks.map TaskEntry.id).Nodup) : (s.endTask entry.id).tasks = before ++ after := by
  have apart := ne_of_nodup_around (tasks ▸ nodup)
  have kept (part : List (TaskEntry α)) (within : part ⊆ before ++ after) :
      part.filter (fun t => t.id ≠ entry.id) = part :=
    List.filter_eq_self.mpr fun other mem => decide_eq_true (apart other (within mem))
  have gone : decide (entry.id ≠ entry.id) = false := by simp
  rw [endTask, tasks, List.filter_append, List.filter_cons, if_neg (Bool.eq_false_iff.mp gone),
    kept before (List.subset_append_left _ _), kept after (List.subset_append_right _ _)]

private theorem tasks_putWorkbench (s : Session α) (w : Nat) (b : Workbench α) :
    (s.putWorkbench w b).tasks = s.tasks :=
  (rests_announce _ w).tasks

private theorem scene_putWorkbench {workspace : Workspace α}
    (found : s.workspaces[w]? = some workspace) (b : Workbench α) :
    ∃ workspace', (s.putWorkbench w b).workspaces[w]? = some workspace' ∧
      workspace'.store.scene = b.store.scene := by
  let put : Session α :=
    { s with
      metrics := b.metrics
      issued := b.issued }.changeWorkspace w fun workspace => { workspace with store := b.store }
  have there : put.workspaces[w]? = some { workspace with store := b.store } := by
    change (s.workspaces.modify w _)[w]? = _
    rw [List.getElem?_modify_eq, found]
    rfl
  obtain ⟨workspace', found', same⟩ := (rests_announce put w).exists_watched there
  exact ⟨workspace', found', congrArg Prod.fst same⟩

end Plain

end Session

namespace Watch

structure Mirrors {α : Type} (a : Watch α) (s : Session α) (w : Nat) : Prop where
  workspace : ∃ workspace, s.workspaces[w]? = some workspace ∧
    workspace.store.scene = a.bench.store.scene
  followers : TaskEntry.followers w s.tasks = a.followers

namespace Mirrors

section Plain

variable {α : Type} {a : Watch α} {s t : Session α} {w : Nat}

private theorem rests (h : a.Mirrors s w) (rests : s.Rests t) : a.Mirrors t w := by
  obtain ⟨⟨workspace, found, scene⟩, followers⟩ := h
  obtain ⟨workspace', found', same⟩ := rests.exists_watched found
  refine ⟨⟨workspace', found', (congrArg Prod.fst same).trans scene⟩, ?_⟩
  rw [← followers, rests.tasks]

private theorem workbench (h : a.Mirrors s w) :
    ∃ b, s.workbench? w = some b ∧ b.store.scene = a.bench.store.scene := by
  obtain ⟨⟨workspace, found, scene⟩, -⟩ := h
  refine ⟨⟨s.now, workspace.store, s.metrics, s.issued⟩, ?_, scene⟩
  rw [Session.workbench?, found]
  rfl

end Plain

variable {α : Type} [Scalar α] {a : Watch α} {s : Session α} {w id : Nat} {f : Followed}
  {stage : FollowStage α} {before after : List (TaskEntry α)}

private theorem resumed {b : Workbench α} (h : a.Mirrors s w) (keys : List Key)
    (tasks : s.tasks = before ++ ⟨id, w, .follower f stage⟩ :: after)
    (bench : b.store.scene = a.bench.store.scene) (reply : (stage.ask f).Answer) :
    ReflTransGen (Step keys) a
      ⟨(stage.resume f b reply).2, TaskEntry.followers w before ++
        left f (stage.resume f b reply).1 ++ TaskEntry.followers w after⟩ := by
  have there : a.followers =
      TaskEntry.followers w before ++ (f, stage) :: TaskEntry.followers w after := by
    rw [← h.followers, tasks, TaskEntry.followers_append, TaskEntry.followers_cons]
  have looks : Step keys a ⟨b, a.followers⟩ :=
    .elsewhere fun key _ idle => (congrArg (fun scene => scene.isRunning key) bench).trans idle
  rw [there] at looks
  exact (ReflTransGen.single looks).tail (.follower reply)

theorem stepFollower (h : a.Mirrors s w) (keys : List Key)
    (tasks : s.tasks = before ++ ⟨id, w, .follower f stage⟩ :: after)
    (nodup : (s.tasks.map TaskEntry.id).Nodup) :
    ∃ a', a'.Mirrors (s.stepFollower id w f stage).2 w ∧ ReflTransGen (Step keys) a a' := by
  have answered := h.rests (s.rests_answer w (.task id) (stage.ask f))
  have same := (s.rests_answer w (.task id) (stage.ask f)).tasks
  unfold Session.stepFollower Session.drive
  generalize s.answer w (.task id) (stage.ask f) = answer at answered same
  obtain ⟨reply, asked⟩ := answer
  cases reply with
  | none => exact ⟨a, answered, .refl⟩
  | some reply =>
    obtain ⟨b, bench, scene⟩ := answered.workbench
    obtain ⟨⟨workspace, found, -⟩, -⟩ := answered
    have run := h.resumed keys tasks scene reply
    refine ⟨_, ?_, run⟩
    simp only [bench]
    generalize stage.resume f b reply = went
    obtain ⟨progress, b'⟩ := went
    have there := Session.scene_putWorkbench found b'
    have tasks' := (Session.tasks_putWorkbench asked w b').trans (same.trans tasks)
    have nodup' : ((asked.putWorkbench w b').tasks.map TaskEntry.id).Nodup := by
      rwa [tasks', ← tasks]
    cases progress with
    | more next =>
      refine ⟨there, ?_⟩
      simp only [Session.tasks_setTask tasks' nodup']
      rw [TaskEntry.followers_append, TaskEntry.followers_cons]
      simp [left]
    | done applied =>
      refine ⟨there, ?_⟩
      simp only [Session.tasks_endTask tasks' nodup']
      rw [TaskEntry.followers_append]
      simp [left]

end Mirrors

end Watch

end PromptCanvas

import Mathlib.Logic.Relation
import PromptCanvas.Proofs.Job.Keeping
import PromptCanvas.Proofs.Job.Verdict

set_option autoImplicit false
set_option relaxedAutoImplicit false

namespace PromptCanvas

open Relation (ReflTransGen)

/-- Followers, each with how far it is, and what they work on. -/
structure Watch (α : Type) where
  bench : Workbench α
  followers : List (Followed × FollowStage α)

namespace Watch

section Plain

variable {α : Type}

def start (bench : Workbench α) (followed : List Followed) : Watch α :=
  ⟨bench, followed.map fun f => (f, .subscribing)⟩

def left (f : Followed) : Progress (FollowStage α) Applied → List (Followed × FollowStage α)
  | .more next => [(f, next)]
  | .done _ => []

def Minds (w : Watch α) (key : Key) : Prop :=
  w.bench.store.scene.isRunning key = true →
    ∃ entry ∈ w.followers, entry.1.key = key ∧ entry.2.verdict? = none

private theorem exists_left (f : Followed) {went : Progress (FollowStage α) Applied}
    (working : FollowStage.over? went = none) :
    ∃ entry ∈ left f went, entry.1 = f ∧ entry.2.verdict? = none := by
  cases went with
  | more next => exact ⟨(f, next), List.mem_singleton_self _, rfl, working⟩
  | done applied => cases working

theorem Minds.idle {w : Watch α} {key : Key} (minds : w.Minds key) (returned : w.followers = []) :
    w.bench.store.scene.isRunning key = false := by
  refine Bool.eq_false_iff.mpr fun waits => ?_
  obtain ⟨entry, mem, -⟩ := minds waits
  rw [returned] at mem
  exact absurd mem List.not_mem_nil

end Plain

variable {α : Type} [Scalar α]

/-- A follower goes on with an answer, or others change something. -/
inductive Step (keys : List Key) : Watch α → Watch α → Prop
  | follower {b : Workbench α} {before after : List (Followed × FollowStage α)} {f : Followed}
      {stage : FollowStage α} (reply : (stage.ask f).Answer) :
      Step keys ⟨b, before ++ (f, stage) :: after⟩
        ⟨(stage.resume f b reply).2, before ++ left f (stage.resume f b reply).1 ++ after⟩
  | elsewhere {b b' : Workbench α} {followers : List (Followed × FollowStage α)} :
      (∀ key ∈ keys, b.store.scene.isRunning key = false →
        b'.store.scene.isRunning key = false) → Step keys ⟨b, followers⟩ ⟨b', followers⟩

section Steps

variable {f : Followed} {b : Workbench α} {stage : FollowStage α} {reply : (stage.ask f).Answer}
  {keys : List Key} {key : Key} {w w' : Watch α}

private theorem isRunning_of_resume
    (waits : (stage.resume f b reply).2.store.scene.isRunning key = true) :
    b.store.scene.isRunning key = true := by
  rcases stage.store_resume reply with same | ⟨event, delivered⟩
  · rwa [same] at waits
  · rw [delivered, Store.isRunning_deliver] at waits
    exact (Bool.and_eq_true_iff.mp waits).1

private theorem over?_of_isRunning (working : stage.verdict? = none)
    (waits : (stage.resume f b reply).2.store.scene.isRunning f.key = true) :
    FollowStage.over? (stage.resume f b reply).1 = none := by
  refine Option.eq_none_iff_forall_ne_some.mpr fun applied judged => ?_
  have idle := (FollowStage.settles_resume working reply judged).idle
  rw [idle] at waits
  cases waits

private theorem Minds.step (minds : w.Minds key) (watched : key ∈ keys) (step : Step keys w w') :
    w'.Minds key := by
  intro waits
  cases step with
  | @follower b before after f stage reply =>
    obtain ⟨entry, mem, own, working⟩ := minds (isRunning_of_resume waits)
    rcases List.mem_append.mp mem with mem | mem
    · exact ⟨entry, List.mem_append_left _ (List.mem_append_left _ mem), own, working⟩
    rcases List.mem_cons.mp mem with rfl | mem
    · have goesOn := over?_of_isRunning working (own.symm ▸ waits)
      obtain ⟨next, there, same, working'⟩ := exists_left f goesOn
      refine ⟨next, List.mem_append_left _ (List.mem_append_right _ there), ?_, working'⟩
      rw [same]
      exact own
    · exact ⟨entry, List.mem_append_right _ mem, own, working⟩
  | @elsewhere b b' followers kept =>
    cases waited : b.store.scene.isRunning key with
    | true => exact minds waited
    | false => exact absurd waits (Bool.eq_false_iff.mp (kept key watched waited))

theorem Minds.run (minds : w.Minds key) (watched : key ∈ keys)
    (run : ReflTransGen (Step keys) w w') : w'.Minds key := by
  induction run with
  | refl => exact minds
  | tail _ step ih => exact ih.step watched step

theorem exists_returned (keys : List Key) (b : Workbench α) (f : Followed) :
    ∃ w, ReflTransGen (Step keys) (start b [f]) w ∧ w.followers = [] := by
  let refused : Delayed (Except ServiceError (RunStream α)) := ⟨0, .error (.unavailable "offline")⟩
  have asked : Step keys ⟨b, [] ++ (f, .subscribing) :: []⟩ _ := .follower refused
  have answered : Step keys
      ⟨b, [] ++ (f, .connecting refused.value (b.now + 0) (b.now + f.timeout)) :: []⟩ _ :=
    .follower ()
  refine ⟨_, (ReflTransGen.single asked).tail answered, ?_⟩
  simp [FollowStage.resume, FollowStage.connected, left, refused]

end Steps

end Watch

end PromptCanvas

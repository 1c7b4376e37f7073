import PromptCanvas.Process.Generate
import PromptCanvas.Proofs.Process.Save
import PromptCanvas.Proofs.Run.Delivery

/-!
How the work of a job for its element ends.

A job works on until a step brings a verdict: the result has reached the element, or a failure has,
or the element does not wait any more.  Whichever step that is, `Settles` says what it has done to
the element.  Behind the verdict a job only leaves its stream and its place.
-/

set_option autoImplicit false
set_option relaxedAutoImplicit false

namespace PromptCanvas

section Plain

variable {α : Type}

/-- An image that shows an asset, which is stored. -/
structure Image.Shows (image : Image α) (asset : Asset) : Prop where
  status : image.status = .done
  src : image.src = asset.url
  assetId : image.assetId = some asset.id
  contentHash : image.contentHash = some asset.contentHash
  syncStatus : image.syncStatus = some .synced

/-- What the step with a verdict has done to the element; `came` is the result that the step was
given, if it was given one. -/
inductive Settles (key : Key) (came : Option RunEvent) (b b' : Workbench α) : Applied → Prop
  | done {asset : Asset} {meant : Option String} {image : Image α}
      (event : came = some (.imageDone asset meant))
      (concerned : (RunEvent.imageDone asset meant).concerns key = true)
      (waited : b.store.scene.isRunning key = true)
      (found : b'.store.scene.image? key = some image) (shown : image.Shows asset) :
      Settles key came b b' .done
  | error {image : Image α} {message : String}
      (waited : b.store.scene.isRunning key = true)
      (found : b'.store.scene.image? key = some image) (failed : image.status = .error)
      (said : image.errorMessage = some message) :
      Settles key came b b' .error
  | ignored (idle : b.store.scene.isRunning key = false)
      (still : b'.store.scene.isRunning key = false) :
      Settles key came b b' .ignored

namespace Settles

variable {key : Key} {came : Option RunEvent} {b b' : Workbench α} {applied : Applied}

theorem idle (h : Settles key came b b' applied) : b'.store.scene.isRunning key = false := by
  cases h with
  | done _ _ _ found shown => rw [Scene.isRunning_of_image? found, shown.status]; rfl
  | error _ found failed => rw [Scene.isRunning_of_image? found, failed]; rfl
  | ignored _ still => exact still

private theorem of_isRunning_eq {b₀ : Workbench α} (h : Settles key came b b' applied)
    (same : b.store.scene.isRunning key = b₀.store.scene.isRunning key) :
    Settles key came b₀ b' applied := by
  cases h with
  | done event concerned waited found shown =>
    exact .done event concerned (same ▸ waited) found shown
  | error waited found failed said => exact .error (same ▸ waited) found failed said
  | ignored idle still => exact .ignored (same ▸ idle) still

end Settles

def FollowStage.verdict? : FollowStage α → Option Applied
  | leaving _ applied => some applied
  | subscribing | connecting .. | reading .. | pausing .. => none

def FollowStage.result? (f : Followed) :
    (stage : FollowStage α) → (stage.ask f).Answer → Option RunEvent
  | reading .., .item (.ok json) _ => RunEvent.ofJson? json
  | reading .., .item (.error _) _ | reading .., .pause .. | reading .., .ended => none
  | subscribing, _ | connecting .., _ | pausing .., _ | leaving .., _ => none

def JobStage.verdict? : JobStage α → Option (Key × Applied)
  | following target _ follow => follow.verdict?.map fun applied => (target, applied)
  | concluding target applied => some (target, applied)
  | placing | referencing .. | uploading .. | saving .. | requesting .. | acknowledged .. => none

def JobStage.result? (a : Assignment α) :
    (stage : JobStage α) → (stage.ask a).Answer → Option RunEvent
  | following target runId follow, reply => follow.result? (a.followed target runId) reply
  | placing, _ | referencing .., _ | uploading .., _ | saving .., _ | requesting .., _
  | acknowledged .., _ | concluding .., _ => none

private theorem JobStage.verdict?_nextReference (a : Assignment α) (b : Workbench α) (target : Key)
    (hashes : List String) (left : List Key) :
    (nextReference a b target hashes left).1.verdict? = none := by
  cases left with
  | nil => rfl
  | cons reference left =>
    rw [nextReference]
    split <;> rfl

end Plain

variable {α : Type} [Scalar α] {b b' : Workbench α} {applied : Applied}

namespace Workbench

variable {key : Key} {event : RunEvent}

theorem deliver_of_wanted (concerned : event.concerns key = true)
    (waits : b.store.scene.isRunning key = true) :
    (b.deliver key event).1 = event.effect ∧
      ∃ image, (b.deliver key event).2.store.scene.image? key = some (event.deliver image) := by
  have delivered := Store.deliver_eq b.store key event
  rw [concerned, waits, Bool.and_self, if_pos rfl] at delivered
  obtain ⟨image, found⟩ := Scene.exists_image_of_isRunning waits
  refine ⟨congrArg Prod.fst delivered, image, ?_⟩
  rw [deliver, delivered]
  simp [Scene.image?_modify_mapImage, found]

theorem deliver_of_unwanted
    (unwanted : (event.concerns key && b.store.scene.isRunning key) = false) :
    b.deliver key event = (.ignored, b) := by
  rw [deliver, Store.deliver_eq, unwanted]
  rfl

private theorem settles_deliver (concerned : event.concerns key = true)
    (waits : b.store.scene.isRunning key = true) :
    Settles key (some event) b (b.deliver key event).2 (b.deliver key event).1 := by
  obtain ⟨effect, image, found⟩ := deliver_of_wanted concerned waits
  rw [effect]
  cases event with
  | imageDone asset meant =>
    exact .done rfl concerned waits found ⟨rfl, rfl, rfl, rfl, rfl⟩
  | imageError message meant => exact .error waits found rfl rfl

private theorem settles_fail (b : Workbench α) (key : Key) (message : String)
    (came : Option RunEvent) :
    Settles key came b (b.fail key message).2 (b.fail key message).1 := by
  change Settles key came b (b.deliver key (.imageError message none)).2
    (b.deliver key (.imageError message none)).1
  cases waits : b.store.scene.isRunning key with
  | true =>
    have concerned : (RunEvent.imageError message none).concerns key = true := rfl
    obtain ⟨effect, image, found⟩ := deliver_of_wanted concerned waits
    rw [effect]
    exact .error waits found rfl rfl
  | false =>
    rw [deliver_of_unwanted (by simp [waits])]
    exact .ignored waits waits

end Workbench

namespace FollowStage

variable {f : Followed}

private theorem settles_payload {json : Json α} (ended : payload f b json = (some applied, b')) :
    Settles f.key (RunEvent.ofJson? json) b b' applied := by
  unfold payload at ended
  split at ended
  · cases ended
  · next event read =>
    rw [read]
    cases wanted : event.concerns f.key && b.store.scene.isRunning f.key with
    | true =>
      obtain ⟨concerned, waits⟩ := Bool.and_eq_true_iff.mp wanted
      have settled := Workbench.settles_deliver concerned waits
      have effect := (Workbench.deliver_of_wanted concerned waits).1
      split at ended
      · next delivered =>
        rw [delivered] at effect
        cases event <;> cases effect
      · next applied after _ delivered =>
        cases ended
        rwa [delivered] at settled
    | false =>
      rw [Workbench.deliver_of_unwanted wanted] at ended
      obtain ⟨judged, rfl⟩ := Prod.mk.inj ended
      split at judged
      · cases judged
      · next idle =>
        cases judged
        exact .ignored (Bool.eq_false_iff.mpr idle) (Bool.eq_false_iff.mpr idle)

private theorem settles_item {item : Except ServiceError (Json α)} {stream rest : RunStream α}
    {deadline : Nat} (ended : FollowStage.item f b item = (some applied, b')) :
    Settles f.key ((reading stream deadline).result? f (.item item rest)) b b' applied := by
  cases item with
  | ok json => exact settles_payload ended
  | error e =>
    cases ended
    exact Workbench.settles_fail b f.key _ _

def over? : Progress (FollowStage α) Applied → Option Applied
  | .more next => next.verdict?
  | .done applied => some applied

theorem settles_resume {stage : FollowStage α} (working : stage.verdict? = none)
    (reply : (stage.ask f).Answer) (judged : over? (stage.resume f b reply).1 = some applied) :
    Settles f.key (stage.result? f reply) b (stage.resume f b reply).2 applied := by
  cases stage with
  | subscribing => cases judged
  | connecting found wake deadline =>
    by_cases reached : wake ≤ b.now
    · rw [resume, if_pos reached] at judged ⊢
      cases found with
      | ok stream => cases judged
      | error e =>
        cases judged
        exact Workbench.settles_fail b f.key _ _
    · rw [resume, if_neg reached] at judged ⊢
      cases judged
      exact Workbench.settles_fail b f.key _ _
  | reading stream deadline =>
    cases reply with
    | item result rest =>
      rw [resume] at judged ⊢
      split at judged
      · cases judged
      · next ended =>
        cases judged
        exact settles_item ended
    | pause duration rest => cases judged
    | ended =>
      cases judged
      exact Workbench.settles_fail b f.key _ _
  | pausing stream wake deadline =>
    by_cases reached : wake ≤ b.now
    · rw [resume, if_pos reached] at judged
      cases judged
    · rw [resume, if_neg reached] at judged ⊢
      cases judged
      exact Workbench.settles_fail b f.key _ _
  | leaving stream applied => cases working

end FollowStage

namespace JobStage

variable {a : Assignment α} {target key : Key}

private theorem settles_giveUp {b₀ : Workbench α} {message : String} (came : Option RunEvent)
    (same : b.store.scene.isRunning target = b₀.store.scene.isRunning target)
    (judged : (giveUp b target message).1.verdict? = some (key, applied)) :
    Settles key came b₀ (giveUp b target message).2 applied := by
  cases judged
  exact (Workbench.settles_fail b target message came).of_isRunning_eq same

private theorem settles_saved {b₀ : Workbench α} {hashes : List String} (came : Option RunEvent)
    (same : b.store = b₀.store)
    (judged : (saved a b target hashes).1.verdict? = some (key, applied)) :
    Settles key came b₀ (saved a b target hashes).2 applied := by
  unfold saved at judged ⊢
  split at judged
  · cases judged
  · next missing =>
    rw [if_neg missing]
    exact settles_giveUp came (by rw [same]) judged

private theorem settles_runStarted {reply : Except ServiceError RunHandle} (came : Option RunEvent)
    (judged : (runStarted b target reply).1.verdict? = some (key, applied)) :
    Settles key came b (runStarted b target reply).2 applied := by
  cases reply with
  | ok handle =>
    unfold runStarted at judged ⊢
    cases usable : handle.usableId? with
    | some runId => simp [usable, verdict?, FollowStage.verdict?] at judged
    | none =>
      simp only [usable] at judged ⊢
      exact settles_giveUp came rfl judged
  | error e => exact settles_giveUp came rfl judged

def over? : Progress (JobStage α) JobOutcome → Option (Key × Applied)
  | .more next => next.verdict?
  | .done _ => none

theorem settles_resume {stage : JobStage α} (working : stage.verdict? = none)
    (reply : (stage.ask a).Answer)
    (judged : over? (stage.resume a b reply).1 = some (key, applied)) :
    Settles key (stage.result? a reply) b (stage.resume a b reply).2 applied := by
  cases stage with
  | placing =>
    rw [resume] at judged
    split at judged <;> cases judged
  | referencing target left hashes =>
    have none := verdict?_nextReference a b target hashes left
    exact absurd (none.symm.trans judged) (by simp)
  | uploading target reference source left hashes =>
    cases reply with
    | ok asset => cases judged
    | error e =>
      refine settles_giveUp none ?_ judged
      exact Workbench.isRunning_changeImage fun _ => rfl
  | saving target hashes save =>
    have kept := (SaveStage.resume_keeps a.retry b reply).1
    rw [resume] at judged ⊢
    split at judged
    · cases judged
    · next ended =>
      rw [ended] at kept
      exact settles_saved none kept judged
  | requesting target hashes => cases judged
  | acknowledged target reply wake => exact settles_runStarted none judged
  | following target runId follow =>
    have settled := @FollowStage.settles_resume _ _ b applied (a.followed target runId) follow
      (Option.map_eq_none_iff.mp working) reply
    rw [resume] at judged ⊢
    split at judged
    · next later after went =>
      obtain ⟨verdict, found, same⟩ := Option.map_eq_some_iff.mp judged
      cases same
      rw [went] at settled
      exact settled found
    · next verdict after went =>
      cases judged
      rw [went] at settled
      exact settled rfl
  | concluding target applied => cases working

end JobStage

end PromptCanvas

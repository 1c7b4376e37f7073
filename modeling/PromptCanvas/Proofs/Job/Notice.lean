import Mathlib.Data.List.Chain
import PromptCanvas.Proofs.Document.Shown
import PromptCanvas.Proofs.Job.Course
import PromptCanvas.Proofs.JobQueue.Targets

/-!
What the server is told of a placeholder before the run.

A job captures the scene once and sends that capture until it arrives or is given up; only then
comes the request of the run.  The capture is a document, and a document shows an element that
waits just if there is room for it above the limit.
-/

set_option autoImplicit false
set_option relaxedAutoImplicit false

namespace PromptCanvas

variable {α : Type}

def Beat.sent? {a : Assignment α} (beat : Beat a) : Option (Snapshot α) :=
  match beat.stage.ask a with
  | .saveScene snapshot => some snapshot
  | _ => none

def Scene.Awaits (s : Scene α) (key : Key) : Prop :=
  s.contains key = true → s.isRunning key = true

/-- Nobody puts the element back once it is out, or ends its waiting. -/
def Scene.Spares (key : Key) (s s' : Scene α) : Prop :=
  s'.contains key = true →
    s.contains key = true ∧ (s.isRunning key = true → s'.isRunning key = true)

namespace Scene

variable {s s' : Scene α} {key : Key}

private theorem Awaits.of_spares (awaits : s.Awaits key) (spares : Spares key s s') :
    s'.Awaits key := by
  intro there
  obtain ⟨before, goes_on⟩ := spares there
  exact goes_on (awaits before)

private theorem isRunning_of_get? {e : Element α} (found : s.get? key = some e) :
    s.isRunning key = e.isRunning := by
  rw [isRunning, found]
  rfl

end Scene

private theorem Workbench.awaits_changeImage {b : Workbench α} {key : Key}
    {change : Image α → Image α}
    (keeps : ∀ image, (change image).status = image.status) (other : Key)
    (awaits : b.store.scene.Awaits key) : (b.changeImage other change).store.scene.Awaits key := by
  intro there
  have same : (b.changeImage other change).store.scene.keys = b.store.scene.keys := by
    rw [scene_changeImage, Scene.keys_modify]
  rw [Scene.contains_iff, same, ← Scene.contains_iff] at there
  rw [isRunning_changeImage keeps]
  exact awaits there

variable [Scalar α]

def Undisturbed {a : Assignment α} (target : Key) (beats : List (Beat a)) : Prop :=
  beats.IsChain fun first next =>
    Scene.Spares target first.after.store.scene next.before.store.scene

namespace JobStage

variable {a : Assignment α} {job : Job} {b b' : Workbench α} {target key : Key}

private theorem placeNew_awaits (placed : placeNew job b = (.ok key, b')) :
    b'.store.scene.isRunning key = true ∧ b'.store.scene.durableAbove key = 0 := by
  have name : key = ⟨freshName b.issued⟩ := placeNew_eq_ok (congrArg Prod.fst placed)
  simp only [placeNew, Workbench.issue, Store.insertPlaced_eq, ← name] at placed
  split at placed
  · next store inserted =>
    split at inserted
    · cases inserted
    · next new =>
      have fresh : b.store.scene.contains key = false := by simpa using new
      obtain rfl := Except.ok.inj inserted
      cases placed
      rw [Store.scene_withScene]
      obtain ⟨found, top⟩ := Scene.on_top (e := Element.make key (placeholder job) _) fresh
      exact ⟨Scene.isRunning_of_get? found, top⟩
  · cases placed

omit [Scalar α] in
private theorem isRunning_convert {e : Element α} (generator : e.content.generator?.isSome = true) :
    (convert job e).isRunning = true := by
  cases content : e.content with
  | generator => simp [convert, content, Element.isRunning, Content.isRunning, placeholder,
      Image.placeholder]
  | image | shape | text => simp [Content.generator?, content] at generator

private theorem place_awaits (placed : place job b = (.ok key, b')) :
    b'.store.scene.isRunning key = true ∧
      (job.seed ≠ some key → b'.store.scene.durableAbove key = 0) := by
  unfold place at placed
  split at placed
  · obtain ⟨running, top⟩ := placeNew_awaits placed
    exact ⟨running, fun _ => top⟩
  · next seed is_seed =>
    split at placed
    · next store converted =>
      cases placed
      refine ⟨?_, fun other => absurd is_seed other⟩
      unfold convertSeed at converted
      split at converted
      · next e _ found updated =>
        obtain ⟨generator, rfl⟩ := Prod.mk.inj converted
        rw [Store.updateElement_eq] at updated
        split at updated
        · obtain rfl := Except.ok.inj updated
          have changed := Scene.get?_modify b.store.scene key (convert job)
          rw [found] at changed
          rw [Store.scene_withScene, Scene.isRunning_of_get? changed]
          exact isRunning_convert generator
        · cases updated
      · cases converted
    · obtain ⟨running, top⟩ := placeNew_awaits placed
      exact ⟨running, fun _ => top⟩

end JobStage

variable {a : Assignment α} {target : Key} {hashes : List String} {beats : List (Beat a)}
  {beat : Beat a} {snapshot : Snapshot α} {attempts : Nat}

/-- The step in which a job chooses its element, which waits from then on; a new one is on top. -/
structure Beat.Places (beat : Beat a) (target : Key) : Prop where
  stage : beat.stage = .placing
  running : beat.after.store.scene.isRunning target = true
  top : a.job.seed ≠ some target → beat.after.store.scene.durableAbove target = 0

structure Prepared (target : Key) (beats : List (Beat a)) : Prop where
  placed : ∃ beat ∈ beats, beat.Places target
  awaits : Undisturbed target beats → ∀ last ∈ beats.getLast?, last.after.store.scene.Awaits target
  unsent : beats.filterMap Beat.sent? = []

structure Beat.Captures (beat : Beat a) (target : Key) (hashes : List String)
    (snapshot : Snapshot α) : Prop where
  stage : beat.stage = .saving target hashes (.opening .scene)
  document : snapshot.document = Document.ofScene beat.before.store.scene

/-- A job has captured the scene in one of its steps, and has sent that capture so many times. -/
def Noticed (target : Key) (hashes : List String) (snapshot : Snapshot α) (attempts : Nat)
    (beats : List (Beat a)) : Prop :=
  ∃ earlier capture later, beats = earlier ++ capture :: later ∧
    (∃ beat ∈ earlier, beat.Places target) ∧ capture.Captures target hashes snapshot ∧
    (Undisturbed target (earlier ++ [capture]) → capture.before.store.scene.Awaits target) ∧
    beats.filterMap Beat.sent? = List.replicate attempts snapshot

def Noted (beats : List (Beat a)) : JobStage α → Prop
  | .placing => beats = []
  | .referencing target _ _ | .uploading target _ _ _ _ => Prepared target beats
  | .saving target _ (.opening kind) => kind = .scene ∧ Prepared target beats
  | .saving target hashes (.sending cargo _) =>
    ∃ snapshot attempts, cargo = .scene snapshot ∧ Noticed target hashes snapshot attempts beats
  | .saving target hashes (.resting cargo _ _) | .saving target hashes (.closing cargo _) =>
    ∃ snapshot attempts, cargo = .scene snapshot ∧
      Noticed target hashes snapshot (attempts + 1) beats
  | .requesting target hashes =>
    ∃ snapshot attempts, Noticed target hashes snapshot (attempts + 1) beats
  | .acknowledged .. | .following .. | .concluding .. => True

private theorem Prepared.awaits_before (h : Prepared target beats)
    (undisturbed : Undisturbed target (beats ++ [beat])) :
    beat.before.store.scene.Awaits target := by
  obtain ⟨so_far, -, link⟩ := List.isChain_append.mp undisturbed
  obtain ⟨placed, mem, -⟩ := h.placed
  obtain ⟨last, is_last⟩ := Option.isSome_iff_exists.mp
    (List.getLast?_isSome.mpr (List.ne_nil_of_mem mem))
  exact (h.awaits so_far last is_last).of_spares (link last is_last beat rfl)

private theorem Prepared.append (h : Prepared target beats) (silent : beat.sent? = none)
    (keeps : beat.before.store.scene.Awaits target → beat.after.store.scene.Awaits target) :
    Prepared target (beats ++ [beat]) := by
  constructor
  case placed =>
    obtain ⟨placed, mem, places⟩ := h.placed
    exact ⟨placed, List.mem_append_left _ mem, places⟩
  case awaits =>
    intro undisturbed last is_last
    obtain rfl : beat = last := by simpa using is_last
    exact keeps (h.awaits_before undisturbed)
  case unsent => simp [h.unsent, silent]

private theorem Prepared.capture (h : Prepared target beats)
    (captures : beat.Captures target hashes snapshot) :
    Noticed target hashes snapshot 0 (beats ++ [beat]) := by
  have silent : beat.sent? = none := by rw [Beat.sent?, captures.stage]; rfl
  exact ⟨beats, beat, [], rfl, h.placed, captures, h.awaits_before, by simp [h.unsent, silent]⟩

private theorem Noticed.append (h : Noticed target hashes snapshot attempts beats) {more : Nat}
    (sent : beat.sent?.toList = List.replicate more snapshot) :
    Noticed target hashes snapshot (attempts + more) (beats ++ [beat]) := by
  obtain ⟨earlier, capture, later, rfl, placed, captures, awaits, attempts⟩ := h
  refine ⟨earlier, capture, later ++ [beat], by simp, placed, captures, awaits, ?_⟩
  have one : [beat].filterMap Beat.sent? = beat.sent?.toList := by
    cases found : beat.sent? <;> simp [found]
  rw [List.filterMap_append, attempts, one, sent, List.replicate_append_replicate]

section Steps

variable {b b' : Workbench α} {next : JobStage α}

private theorem prepared_placing {bench : Workbench α}
    (reply : ((JobStage.placing : JobStage α).ask a).Answer)
    (placed : JobStage.place a.job b = (.ok target, bench)) :
    Prepared target [(⟨.placing, b, reply⟩ : Beat a)] := by
  obtain ⟨running, top⟩ := JobStage.place_awaits placed
  have after : (⟨.placing, b, reply⟩ : Beat a).after = bench := by
    simp only [Beat.after, JobStage.resume, placed]
  rw [← after] at running top
  constructor
  case placed => exact ⟨_, List.mem_singleton_self _, rfl, running, top⟩
  case awaits =>
    intro _ last is_last
    obtain rfl := Option.some.inj is_last
    exact fun _ => running
  case unsent => rfl

private theorem Prepared.referencing {left : List Key} (h : Prepared target beats)
    (reply : ((JobStage.referencing target left hashes : JobStage α).ask a).Answer) :
    Noted (beats ++ [⟨.referencing target left hashes, b, reply⟩])
      (JobStage.nextReference a b target hashes left).1 := by
  have silent : (⟨.referencing target left hashes, b, reply⟩ : Beat a).sent? = none := rfl
  cases left with
  | nil => exact ⟨rfl, h.append silent id⟩
  | cons reference left =>
    have keeps : b.store.scene.Awaits target → (JobStage.nextReference a b target hashes
        (reference :: left)).2.store.scene.Awaits target := by
      intro awaits
      rw [JobStage.nextReference]
      split
      · exact awaits
      · exact awaits
      · have kept : ∀ image : Image α,
            (JobStage.withSync .pending none image).status = image.status := fun _ => rfl
        exact Workbench.awaits_changeImage kept reference awaits
    have prepared := h.append silent keeps
    rw [JobStage.nextReference]
    split <;> exact prepared

private theorem Prepared.uploading {reference : Key} {source : UploadSource} {left : List Key}
    (h : Prepared target beats) (reply : Except ServiceError Asset) :
    Noted (beats ++ [(⟨.uploading target reference source left hashes, b, reply⟩ : Beat a)])
      (JobStage.uploadEnded b target reference left hashes reply).1 := by
  cases reply with
  | ok asset =>
    have silent : (⟨.uploading target reference source left hashes, b, .ok asset⟩ :
        Beat a).sent? = none := rfl
    have kept : ∀ image : Image α, (JobStage.uploaded asset image).status = image.status :=
      fun _ => rfl
    have prepared := h.append silent fun awaits =>
      Workbench.awaits_changeImage kept reference awaits
    exact prepared
  | error e => trivial

private theorem Noticed.attempted {tries : Nat} (h : Noticed target hashes snapshot attempts beats)
    (reply : Except ServiceError Unit) :
    Noted
      (beats ++ [(⟨.saving target hashes (.sending (.scene snapshot) tries), b, reply⟩ : Beat a)])
      (.saving target hashes (SaveStage.attempted a.retry (.scene snapshot) tries b reply).1) := by
  have sent : (⟨.saving target hashes (.sending (.scene snapshot) tries), b, reply⟩ :
      Beat a).sent?.toList = List.replicate 1 snapshot := rfl
  have more := h.append sent
  unfold SaveStage.attempted
  split
  · exact ⟨snapshot, attempts, rfl, more⟩
  · split <;> exact ⟨snapshot, attempts, rfl, more⟩

private theorem Noted.saving {save : SaveStage α} (h : Noted beats (.saving target hashes save))
    (reply : save.ask.Answer)
    (went : JobStage.resume a b (.saving target hashes save) reply = (.more next, b')) :
    Noted (beats ++ [(⟨.saving target hashes save, b, reply⟩ : Beat a)]) next := by
  cases save with
  | opening kind =>
    obtain ⟨rfl, prepared⟩ := h
    obtain rfl := Progress.more.inj (congrArg Prod.fst went)
    exact ⟨_, 0, rfl, prepared.capture ⟨rfl, rfl⟩⟩
  | sending cargo tries =>
    obtain ⟨snapshot, attempts, rfl, noticed⟩ := h
    obtain rfl := Progress.more.inj (congrArg Prod.fst went)
    exact noticed.attempted reply
  | resting cargo tries wake =>
    obtain ⟨snapshot, attempts, rfl, noticed⟩ := h
    obtain rfl := Progress.more.inj (congrArg Prod.fst went)
    have silent : (⟨.saving target hashes (.resting (.scene snapshot) tries wake), b, reply⟩ :
        Beat a).sent?.toList = List.replicate 0 snapshot := rfl
    exact ⟨snapshot, attempts + 1, rfl, noticed.append silent⟩
  | closing cargo failure =>
    obtain ⟨snapshot, attempts, rfl, noticed⟩ := h
    have silent : (⟨.saving target hashes (.closing (.scene snapshot) failure), b, reply⟩ :
        Beat a).sent?.toList = List.replicate 0 snapshot := rfl
    have goes_on : (JobStage.saved a b target hashes).1 = next :=
      Progress.more.inj (congrArg Prod.fst went)
    rw [← goes_on, JobStage.saved]
    split
    · exact ⟨snapshot, attempts, noticed.append silent⟩
    · trivial

private theorem Noted.step {stage : JobStage α} (h : Noted beats stage)
    (reply : (stage.ask a).Answer) (went : stage.resume a b reply = (.more next, b')) :
    Noted (beats ++ [⟨stage, b, reply⟩]) next := by
  cases stage with
  | placing =>
    obtain rfl : beats = [] := h
    rw [JobStage.resume] at went
    split at went
    · next target bench placed =>
      cases went
      exact prepared_placing reply placed
    · cases went
  | referencing target left hashes =>
    obtain rfl := Progress.more.inj (congrArg Prod.fst went)
    exact Prepared.referencing h reply
  | uploading target reference source left hashes =>
    obtain rfl := Progress.more.inj (congrArg Prod.fst went)
    exact Prepared.uploading h reply
  | saving target hashes save => exact h.saving reply went
  | requesting target hashes =>
    obtain rfl := Progress.more.inj (congrArg Prod.fst went)
    trivial
  | acknowledged target answer wake =>
    have goes_on : (JobStage.runStarted b target answer).1 = next :=
      Progress.more.inj (congrArg Prod.fst went)
    rw [← goes_on]
    unfold JobStage.runStarted
    split
    · split <;> trivial
    · trivial
  | following target runId follow =>
    rw [JobStage.resume] at went
    split at went <;>
      · cases went
        trivial
  | concluding target applied => cases went

private theorem Course.noted {stage : JobStage α} (course : Course a beats stage b) :
    Noted beats stage := by
  induction course with
  | start b => rfl
  | meanwhile _ _ ih => exact ih
  | step _ reply went ih => exact ih.step reply went

end Steps

/-- When a job comes to ask for its run, it has captured the scene once, with its element chosen,
and has sent that capture and no other to be saved, at least once.  What was sent shows the element
waiting just if the element waited in the captured scene and fewer elements than the limit stood
above it that can be found again.  The element did wait if it was still there and others had
spared it; and an element placed anew had nothing above it at first. -/
theorem server_told_before_run {b : Workbench α}
    (course : Course a beats (.requesting target hashes) b) :
    ∃ earlier capture later, ∃ snapshot attempts,
      beats = earlier ++ capture :: later ∧
      capture.stage = .saving target hashes (.opening .scene) ∧
      beats.filterMap Beat.sent? = List.replicate (attempts + 1) snapshot ∧
      (∃ beat ∈ earlier, beat.Places target) ∧
      let scene := capture.before.store.scene
      snapshot.document = Document.ofScene scene ∧
      (scene.keys.Nodup → (snapshot.document.Shows target ↔
        scene.isRunning target = true ∧ scene.durableAbove target < Document.maxElements)) ∧
      (Undisturbed target (earlier ++ [capture]) →
        scene.contains target = true → scene.isRunning target = true) := by
  obtain ⟨snapshot, attempts, earlier, capture, later, rfl, placed, captures, awaits, sent⟩ :=
    course.noted
  refine ⟨earlier, capture, later, snapshot, attempts, rfl, captures.stage, sent, placed,
    captures.document, fun nodup => ?_, awaits⟩
  rw [captures.document]
  exact Document.shows_ofScene_iff nodup target

theorem fox_told :
    ∃ beats b, ∃ snapshot : Snapshot Float, ∃ attempts,
      Course foxWork beats (.requesting ⟨"seed"⟩ []) b ∧
      beats.filterMap Beat.sent? = List.replicate (attempts + 1) snapshot ∧
      snapshot.document.Shows ⟨"seed"⟩ := by
  have placed := (Course.start (a := foxWork) foxBench).step () rfl
  have saving := placed.step () rfl
  have sending := saving.step () rfl
  have closing := sending.step (.ok ()) rfl
  have requesting := closing.step () rfl
  obtain ⟨earlier, capture, later, snapshot, attempts, beats, stage, sent, -, -, shows, -⟩ :=
    server_told_before_run requesting
  have captured : ∀ beat ∈ earlier ++ capture :: later,
      beat.stage = .saving ⟨"seed"⟩ [] (.opening .scene) →
        beat.before.store.scene.keys.Nodup ∧
          beat.before.store.scene.isRunning ⟨"seed"⟩ = true ∧
          beat.before.store.scene.durableAbove ⟨"seed"⟩ < Document.maxElements := by
    rw [← beats]
    simp only [List.nil_append, List.cons_append, List.forall_mem_cons]
    exact ⟨nofun, nofun, fun _ => by decide, nofun, nofun, List.forall_mem_nil _⟩
  obtain ⟨nodup, waits⟩ := captured capture (by simp) stage
  exact ⟨_, _, snapshot, attempts, requesting, sent, (shows nodup).mpr waits⟩

def buriedBench : Workbench Float :=
  let box : Rect Float := ⟨0.0, 0.0, 64.0, 64.0⟩
  let seed : Element Float :=
    ⟨⟨"seed"⟩, box, none, .generator ⟨"fox", none, none, false, false⟩⟩
  let shapes := (List.range Document.maxElements).map fun place =>
    Element.make ⟨"shape-" ++ toString place⟩ (.shape .rect "red" "") box
  ⟨0, .ofCanvas { Canvas.blank with scene := ⟨seed :: shapes, 1⟩ }, Metrics.none, 0⟩

theorem buried_seed_not_told :
    ∃ earlier capture closing later b, ∃ snapshot : Snapshot Float,
      Course foxWork (earlier ++ capture :: later) (.requesting ⟨"seed"⟩ []) b ∧
      capture.stage = .saving ⟨"seed"⟩ [] (.opening .scene) ∧
      (earlier ++ capture :: later).filterMap Beat.sent? = [snapshot] ∧
      closing ∈ later ∧
      closing.stage = .saving ⟨"seed"⟩ [] (.closing (.scene snapshot) none) ∧
      capture.before.store.scene.isRunning ⟨"seed"⟩ = true ∧
      ¬ snapshot.document.Shows ⟨"seed"⟩ := by
  have placed := (Course.start (a := foxWork) buriedBench).step () rfl
  have saving := placed.step () rfl
  have sending := saving.step () rfl
  have closing := sending.step (.ok ()) rfl
  have requesting := closing.step () rfl
  refine ⟨[_, _], _, _, [_, _], _, _, requesting, rfl, rfl,
    List.mem_cons_of_mem _ (List.mem_singleton_self _), rfl, ?_, ?_⟩
  · decide +kernel
  · decide +kernel

end PromptCanvas

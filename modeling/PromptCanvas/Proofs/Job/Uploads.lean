import Mathlib.Data.List.Forall2
import Mathlib.Data.List.ReduceOption
import PromptCanvas.Proofs.Job.Course
import PromptCanvas.Proofs.Prompt.Normal
import PromptCanvas.Proofs.Submission.Mentions

/-!
The references of a job before its run.

A job looks at its references one after the other, and uploads those of which only a local bitmap is
there.  Each reference gives a hash or nothing, in the order of the references.  An upload that
fails ends the work, so that no run is asked for.
-/

set_option autoImplicit false
set_option relaxedAutoImplicit false

namespace PromptCanvas

variable {α : Type}

/-- An upload that has ended: the element that waits for it, the reference, and the answer. -/
structure Upload where
  target : Key
  reference : Key
  reply : Except ServiceError Asset

namespace JobStage

def upload? (a : Assignment α) : (stage : JobStage α) → (stage.ask a).Answer → Option Upload
  | uploading target reference _ _ _, reply => some ⟨target, reference, reply⟩
  | placing, _ | referencing .., _ | saving .., _ | requesting .., _ | acknowledged .., _
  | following .., _ | concluding .., _ => none

def request? (a : Assignment α) (stage : JobStage α) : Option RunRequest :=
  match stage.ask a with
  | .createRun request => some request
  | _ => none

private theorem request?_saving (a : Assignment α) (target : Key) (hashes : List String)
    (save : SaveStage α) : (saving target hashes save).request? a = none := by
  cases save with
  | opening kind => cases kind <;> rfl
  | sending cargo tries => cases cargo <;> rfl
  | resting cargo tries wake => rfl
  | closing cargo failure => cases cargo <;> rfl

private theorem request?_following (a : Assignment α) (target : Key) (runId : String)
    (follow : FollowStage α) : (following target runId follow).request? a = none := by
  cases follow <;> rfl

def looksAt? : JobStage α → Option Key
  | referencing _ left _ => left.head?
  | placing | uploading .. | saving .. | requesting .. | acknowledged .. | following ..
  | concluding .. => none

end JobStage

namespace Beat

variable {a : Assignment α}

def upload? (beat : Beat a) : Option Upload := beat.stage.upload? a beat.reply

def request? (beat : Beat a) : Option RunRequest := beat.stage.request? a

/-- A step finds that a reference has a bitmap, which is to be uploaded. -/
structure Seeks (beat : Beat a) (reference : Key) : Prop where
  looks : beat.stage.looksAt? = some reference
  bitmap : ∃ image, beat.before.store.scene.image? reference = some image ∧
    image.isPersisted = false ∧ image.src ≠ ""
  offered : a.offered.assets = true

/-- A step finds that a reference has no bitmap, or none that could be uploaded. -/
structure Passes (beat : Beat a) (reference : Key) : Prop where
  looks : beat.stage.looksAt? = some reference
  nothing : ∀ image, beat.before.store.scene.image? reference = some image →
    image.isPersisted = false ∧ (image.src = "" ∨ a.offered.assets = false)

end Beat

/-- What a reference gives to a run: the hash with which it is found stored, or with which it has
just been uploaded, or nothing. -/
inductive Gives {a : Assignment α} (beats : List (Beat a)) (reference : Key) : Option String → Prop
  | stored {look : Beat a} {image : Image α} {hash : String} (mem : look ∈ beats)
      (looks : look.stage.looksAt? = some reference)
      (found : look.before.store.scene.image? reference = some image)
      (persisted : image.isPersisted = true) (has : image.contentHash = some hash) :
      Gives beats reference (some hash)
  | uploaded {look upload : Beat a} {target : Key} {asset : Asset} (mem : look ∈ beats)
      (seeks : look.Seeks reference) (mem' : upload ∈ beats)
      (ended : upload.upload? = some ⟨target, reference, .ok asset⟩) :
      Gives beats reference (some asset.contentHash)
  | nothing {look : Beat a} (mem : look ∈ beats) (passes : look.Passes reference) :
      Gives beats reference none

/-- Some references have been dealt with, and have given these hashes in their order. -/
def Given {a : Assignment α} (beats : List (Beat a)) (references : List Key)
    (hashes : List String) : Prop :=
  ∃ found, List.Forall₂ (Gives beats) references found ∧ hashes = found.reduceOption

def looked {a : Assignment α} (beats : List (Beat a)) : List Key :=
  beats.filterMap fun beat => beat.stage.looksAt?

/-- Each reference of the job has been looked at once, in order, and a request names the hashes that
they have given. -/
structure Names {a : Assignment α} (beats : List (Beat a)) (request : RunRequest) : Prop where
  first : request.referenceHash = request.referenceHashes.head?
  looks : looked beats = a.job.references
  given : Given beats a.job.references request.referenceHashes

def Unasked {a : Assignment α} (beats : List (Beat a)) : Prop :=
  ∀ beat ∈ beats, beat.request? = none

def Faultless {a : Assignment α} (beats : List (Beat a)) : Prop :=
  ∀ beat ∈ beats, ∀ upload, beat.upload? = some upload → ∃ asset, upload.reply = .ok asset

def Faithful {a : Assignment α} (beats : List (Beat a)) : Prop :=
  ∀ beat ∈ beats, ∀ request, beat.request? = some request → Names beats request

structure Prepares {a : Assignment α} (beats : List (Beat a)) (seen given : List Key)
    (hashes : List String) : Prop where
  unasked : Unasked beats
  faultless : Faultless beats
  looks : looked beats = seen
  given : Given beats given hashes

def Referenced {a : Assignment α} (beats : List (Beat a)) : JobStage α → Prop
  | .placing => beats = []
  | .referencing _ left hashes =>
    ∃ done, a.job.references = done ++ left ∧ Prepares beats done done hashes
  | .uploading _ reference _ left hashes =>
    (∃ look ∈ beats, look.Seeks reference) ∧ ∃ done, a.job.references = done ++ reference :: left ∧
      Prepares beats (done ++ [reference]) done hashes
  | .saving _ hashes _ | .requesting _ hashes =>
    Prepares beats a.job.references a.job.references hashes
  | .acknowledged .. | .following .. => Faultless beats ∧ Faithful beats
  | .concluding .. => Unasked beats ∨ (Faultless beats ∧ Faithful beats)

section Need

variable {hasAssets : Bool} {image? : Option (Image α)} {hash : String} {source : UploadSource}

private theorem JobStage.of_need_nothing (need : need hasAssets image? = .nothing) :
    ∀ image, image? = some image →
      image.isPersisted = false ∧ (image.src = "" ∨ hasAssets = false) := by
  rintro image rfl
  unfold JobStage.need at need
  dsimp only at need
  split at need
  · next persisted =>
    split at need
    · cases need
    · next none => simp [Image.isPersisted, none] at persisted
  · next fresh =>
    split at need
    · cases need
    · next unfit =>
      refine ⟨by simpa using fresh, ?_⟩
      by_contra other
      simp_all

private theorem JobStage.of_need_stored (need : need hasAssets image? = .stored hash) :
    ∃ image, image? = some image ∧ image.isPersisted = true ∧ image.contentHash = some hash := by
  unfold JobStage.need at need
  split at need
  · cases need
  · next image =>
    split at need
    · next persisted =>
      split at need
      · next has =>
        obtain rfl := ReferenceNeed.stored.inj need
        exact ⟨image, rfl, persisted, has⟩
      · cases need
    · split at need <;> cases need

private theorem JobStage.of_need_upload (need : need hasAssets image? = .upload source) :
    (∃ image, image? = some image ∧ image.isPersisted = false ∧ image.src ≠ "") ∧
      hasAssets = true := by
  unfold JobStage.need at need
  split at need
  · cases need
  · next image =>
    split at need
    · split at need <;> cases need
    · next fresh =>
      split at need
      · next fit =>
        obtain ⟨bitmap, offered⟩ := Bool.and_eq_true_iff.mp fit
        exact ⟨⟨image, rfl, by simpa using fresh, by simpa using bitmap⟩, offered⟩
      · cases need

end Need

section Growth

variable {a : Assignment α} {beats : List (Beat a)} {beat : Beat a} {reference : Key}
  {found : Option String} {given seen : List Key} {hashes : List String} {request : RunRequest}

private theorem Gives.append (h : Gives beats reference found) (beat : Beat a) :
    Gives (beats ++ [beat]) reference found := by
  cases h with
  | stored mem looks there persisted has =>
    exact .stored (List.mem_append_left _ mem) looks there persisted has
  | uploaded mem seeks mem' ended =>
    exact .uploaded (List.mem_append_left _ mem) seeks (List.mem_append_left _ mem') ended
  | nothing mem passes => exact .nothing (List.mem_append_left _ mem) passes

private theorem Given.append (h : Given beats given hashes) (beat : Beat a) :
    Given (beats ++ [beat]) given hashes := by
  obtain ⟨found, gives, rfl⟩ := h
  exact ⟨found, gives.imp fun _ _ gave => gave.append beat, rfl⟩

private theorem Given.concat (h : Given beats given hashes) (gives : Gives beats reference found) :
    Given beats (given ++ [reference]) (hashes ++ found.toList) := by
  obtain ⟨earlier, gave, rfl⟩ := h
  refine ⟨earlier ++ [found], List.rel_append gave (.cons gives .nil), ?_⟩
  rw [List.reduceOption_append, List.reduceOption_singleton]

private theorem looked_append (beats : List (Beat a)) (beat : Beat a) :
    looked (beats ++ [beat]) = looked beats ++ beat.stage.looksAt?.toList := by
  rw [looked, List.filterMap_append, ← looked]
  cases found : beat.stage.looksAt? <;> simp [found]

private theorem Unasked.append (h : Unasked beats) (silent : beat.request? = none) :
    Unasked (beats ++ [beat]) := by
  simpa [Unasked, or_imp, forall_and] using ⟨h, silent⟩

private theorem Faultless.append (h : Faultless beats)
    (well : ∀ upload, beat.upload? = some upload → ∃ asset, upload.reply = .ok asset) :
    Faultless (beats ++ [beat]) := by
  simpa [Faultless, or_imp, forall_and] using ⟨h, well⟩

private theorem Names.append (h : Names beats request) (blind : beat.stage.looksAt? = none) :
    Names (beats ++ [beat]) request where
  first := h.first
  looks := by rw [looked_append, blind, h.looks]; simp
  given := h.given.append beat

private theorem Faithful.append (h : Faithful beats) (blind : beat.stage.looksAt? = none)
    (names : ∀ request, beat.request? = some request → Names beats request) :
    Faithful (beats ++ [beat]) := by
  intro other mem request asked
  rcases List.mem_append.mp mem with old | new
  · exact (h other old request asked).append blind
  · obtain rfl := List.mem_singleton.mp new
    exact (names request asked).append blind

private theorem Unasked.faithful (h : Unasked beats) : Faithful beats := by
  intro beat mem request asked
  rw [h beat mem] at asked
  cases asked

private theorem Prepares.nil : Prepares ([] : List (Beat a)) [] [] [] where
  unasked _ mem := absurd mem List.not_mem_nil
  faultless _ mem := absurd mem List.not_mem_nil
  looks := rfl
  given := ⟨[], .nil, rfl⟩

/-- A step that looks at no reference, ends no upload and asks for no run changes nothing here. -/
private theorem Prepares.append (h : Prepares beats seen given hashes)
    (silent : beat.request? = none)
    (well : ∀ upload, beat.upload? = some upload → ∃ asset, upload.reply = .ok asset) :
    Prepares (beats ++ [beat]) (seen ++ beat.stage.looksAt?.toList) given hashes where
  unasked := h.unasked.append silent
  faultless := h.faultless.append well
  looks := by rw [looked_append, h.looks]
  given := h.given.append beat

end Growth

variable [Scalar α]

section Steps

variable {a : Assignment α} {beats : List (Beat a)} {b b' : Workbench α} {target : Key}
  {hashes : List String} {next : JobStage α}

omit [Scalar α] in
private theorem Prepares.nextReference {done left : List Key}
    (whole : a.job.references = done ++ left) (h : Prepares beats done done hashes) (reply : Unit) :
    Referenced (beats ++ [(⟨.referencing target left hashes, b, reply⟩ : Beat a)])
      (JobStage.nextReference a b target hashes left).1 := by
  cases left with
  | nil =>
    have more : Prepares (beats ++ [(⟨.referencing target [] hashes, b, reply⟩ : Beat a)])
        (done ++ []) done hashes := h.append rfl (by rintro _ ⟨⟩)
    rw [List.append_nil] at whole more
    rw [← whole] at more
    exact more
  | cons reference left =>
    have more : Prepares
        (beats ++ [(⟨.referencing target (reference :: left) hashes, b, reply⟩ : Beat a)])
        (done ++ [reference]) done hashes := h.append rfl (by rintro _ ⟨⟩)
    have last : (⟨.referencing target (reference :: left) hashes, b, reply⟩ : Beat a) ∈
        beats ++ [⟨.referencing target (reference :: left) hashes, b, reply⟩] := by simp
    have whole' : a.job.references = done ++ [reference] ++ left := by simpa using whole
    rw [JobStage.nextReference]
    split
    · next nothing =>
      have gives := Gives.nothing last ⟨rfl, JobStage.of_need_nothing nothing⟩
      have given := more.given.concat gives
      rw [Option.toList_none, List.append_nil] at given
      exact ⟨_, whole', more.unasked, more.faultless, more.looks, given⟩
    · next hash stored =>
      obtain ⟨image, found, persisted, has⟩ := JobStage.of_need_stored stored
      have gives := Gives.stored last rfl found persisted has
      exact ⟨_, whole', more.unasked, more.faultless, more.looks, more.given.concat gives⟩
    · next source upload =>
      obtain ⟨bitmap, offered⟩ := JobStage.of_need_upload upload
      exact ⟨⟨_, last, rfl, bitmap, offered⟩, done, whole, more⟩

private theorem Referenced.uploadEnded {reference : Key} {source : UploadSource} {left : List Key}
    (h : Referenced beats (.uploading target reference source left hashes))
    (reply : Except ServiceError Asset) :
    Referenced (beats ++ [(⟨.uploading target reference source left hashes, b, reply⟩ : Beat a)])
      (JobStage.uploadEnded b target reference left hashes reply).1 := by
  obtain ⟨⟨look, mem, seeks⟩, done, whole, prepares⟩ := h
  cases reply with
  | ok asset =>
    have well : ∀ upload, (⟨.uploading target reference source left hashes, b, .ok asset⟩ :
        Beat a).upload? = some upload → ∃ asset, upload.reply = .ok asset := by
      intro upload ended
      obtain rfl := Option.some.inj ended
      exact ⟨asset, rfl⟩
    have last : (⟨.uploading target reference source left hashes, b, .ok asset⟩ : Beat a) ∈
        beats ++ [⟨.uploading target reference source left hashes, b, .ok asset⟩] := by simp
    have more : Prepares
        (beats ++ [(⟨.uploading target reference source left hashes, b, .ok asset⟩ : Beat a)])
        (done ++ [reference] ++ []) done hashes := prepares.append rfl well
    have gives : Gives
        (beats ++ [(⟨.uploading target reference source left hashes, b, .ok asset⟩ : Beat a)])
        reference (some asset.contentHash) :=
      .uploaded (List.mem_append_left _ mem) seeks last rfl
    have whole' : a.job.references = done ++ [reference] ++ left := by simpa using whole
    rw [List.append_nil] at more
    exact ⟨_, whole', more.unasked, more.faultless, more.looks, more.given.concat gives⟩
  | error e => exact .inl (prepares.unasked.append rfl)

private theorem Referenced.saving {save : SaveStage α}
    (h : Referenced beats (.saving target hashes save))
    (reply : ((JobStage.saving target hashes save).ask a).Answer)
    (went : JobStage.resume a b (.saving target hashes save) reply = (.more next, b')) :
    Referenced (beats ++ [(⟨.saving target hashes save, b, reply⟩ : Beat a)]) next := by
  have more : Prepares (beats ++ [(⟨.saving target hashes save, b, reply⟩ : Beat a)])
      (a.job.references ++ []) a.job.references hashes :=
    Prepares.append h (JobStage.request?_saving a target hashes save) (by rintro _ ⟨⟩)
  rw [List.append_nil] at more
  rw [JobStage.resume] at went
  split at went
  · cases went
    exact more
  · have goes_on : (JobStage.saved a _ target hashes).1 = next :=
      Progress.more.inj (congrArg Prod.fst went)
    rw [← goes_on, JobStage.saved]
    split
    · exact more
    · exact .inl more.unasked

private theorem Referenced.step {stage : JobStage α} (h : Referenced beats stage)
    (reply : (stage.ask a).Answer) (went : stage.resume a b reply = (.more next, b')) :
    Referenced (beats ++ [⟨stage, b, reply⟩]) next := by
  cases stage with
  | placing =>
    obtain rfl : beats = [] := h
    rw [JobStage.resume] at went
    split at went
    · next target bench placed =>
      cases went
      exact ⟨[], rfl, Prepares.nil.append rfl (by rintro _ ⟨⟩)⟩
    · cases went
  | referencing target left hashes =>
    obtain ⟨done, whole, prepares⟩ := h
    obtain rfl := Progress.more.inj (congrArg Prod.fst went)
    exact prepares.nextReference whole reply
  | uploading target reference source left hashes =>
    obtain rfl := Progress.more.inj (congrArg Prod.fst went)
    exact h.uploadEnded reply
  | saving target hashes save => exact h.saving reply went
  | requesting target hashes =>
    obtain rfl := Progress.more.inj (congrArg Prod.fst went)
    have prepares : Prepares beats a.job.references a.job.references hashes := h
    refine ⟨prepares.faultless.append (by rintro _ ⟨⟩), prepares.unasked.faithful.append rfl ?_⟩
    rintro request asked
    obtain rfl := Option.some.inj asked
    exact ⟨rfl, prepares.looks, prepares.given⟩
  | acknowledged target answer wake =>
    obtain ⟨faultless, faithful⟩ := h
    have more : Faultless (beats ++ [⟨.acknowledged target answer wake, b, reply⟩]) ∧
        Faithful (beats ++ [⟨.acknowledged target answer wake, b, reply⟩]) :=
      ⟨faultless.append (by rintro _ ⟨⟩), faithful.append rfl (by rintro _ ⟨⟩)⟩
    have goes_on : (JobStage.runStarted b target answer).1 = next :=
      Progress.more.inj (congrArg Prod.fst went)
    rw [← goes_on]
    unfold JobStage.runStarted
    split
    · split
      · exact more
      · exact .inr more
    · exact .inr more
  | following target runId follow =>
    obtain ⟨faultless, faithful⟩ := h
    have silent := JobStage.request?_following a target runId follow
    have more : Faultless (beats ++ [⟨.following target runId follow, b, reply⟩]) ∧
        Faithful (beats ++ [⟨.following target runId follow, b, reply⟩]) := by
      refine ⟨faultless.append (by rintro _ ⟨⟩), faithful.append rfl ?_⟩
      intro request asked
      cases silent.symm.trans asked
    rw [JobStage.resume] at went
    split at went
    · cases went
      exact more
    · cases went
      exact .inr more
  | concluding target applied => cases went

private theorem Course.referenced {stage : JobStage α} (course : Course a beats stage b) :
    Referenced beats stage := by
  induction course with
  | start b => rfl
  | meanwhile _ _ ih => exact ih
  | step _ reply went ih => exact ih.step reply went

private theorem Beat.after_of_upload {beat : Beat a} {reference : Key}
    {reply : Except ServiceError Asset} (ended : beat.upload? = some ⟨target, reference, reply⟩) :
    ∃ left hashes, beat.after =
      (JobStage.uploadEnded beat.before target reference left hashes reply).2 := by
  obtain ⟨stage, before, answer⟩ := beat
  cases stage with
  | uploading target' reference' source left hashes =>
    obtain ⟨rfl, rfl, rfl⟩ := Upload.mk.inj (Option.some.inj ended)
    exact ⟨left, hashes, rfl⟩
  | placing | referencing | saving | requesting | acknowledged | following | concluding =>
    cases ended

private theorem Beat.uploaded {beat : Beat a} {reference : Key} {asset : Asset}
    (ended : beat.upload? = some ⟨target, reference, .ok asset⟩) :
    beat.after.store.scene.image? reference =
      (beat.before.store.scene.image? reference).map (JobStage.uploaded asset) := by
  obtain ⟨left, hashes, after⟩ := Beat.after_of_upload ended
  rw [after, JobStage.uploadEnded, Workbench.scene_changeImage, Scene.image?_modify_mapImage]
  rfl

private theorem Workbench.image?_fail (b : Workbench α) (key : Key) (message : String) {other : Key}
    {image : Image α} (found : b.store.scene.image? other = some image) :
    ∃ image', (b.fail key message).2.store.scene.image? other = some image' ∧
      image'.syncStatus = image.syncStatus ∧ image'.syncError = image.syncError := by
  change ∃ image', (b.deliver key (.imageError message none)).2.store.scene.image? other = _ ∧ _
  cases wanted : (RunEvent.imageError message none).concerns key &&
      b.store.scene.isRunning key with
  | false =>
    rw [deliver_of_unwanted wanted]
    exact ⟨image, found, rfl, rfl⟩
  | true =>
    have delivered := Store.deliver_eq b.store key (.imageError message none)
    rw [wanted, if_pos rfl] at delivered
    rw [deliver, delivered]
    dsimp only
    rw [Store.scene_withScene]
    by_cases same : other = key
    · subst same
      rw [Scene.image?_modify_mapImage, found]
      exact ⟨_, rfl, rfl, rfl⟩
    · rw [Scene.image?_modify_of_ne same]
      exact ⟨image, found, rfl, rfl⟩

private theorem Beat.unuploaded {beat : Beat a} {reference : Key} {e : ServiceError}
    (ended : beat.upload? = some ⟨target, reference, .error e⟩) :
    (∀ image, beat.before.store.scene.image? reference = some image →
      ∃ image', beat.after.store.scene.image? reference = some image' ∧
        image'.syncStatus = some .failed ∧ image'.syncError = some e.message) ∧
    (beat.before.store.scene.isRunning target = true →
      ∃ image', beat.after.store.scene.image? target = some image' ∧ image'.status = .error ∧
        image'.errorMessage = some ("reference upload failed: " ++ e.message)) := by
  obtain ⟨left, hashes, after⟩ := Beat.after_of_upload ended
  rw [after]
  constructor
  · intro image found
    have marked : ((beat.before.count (.uploads false)).changeImage reference
        (JobStage.withSync .failed (some e.message))).store.scene.image? reference =
          some (JobStage.withSync .failed (some e.message) image) := by
      rw [Workbench.scene_changeImage, Scene.image?_modify_mapImage]
      exact congrArg (Option.map _) found
    obtain ⟨image', there, status, error⟩ :=
      Workbench.image?_fail _ target ("reference upload failed: " ++ e.message) marked
    exact ⟨image', there, status, error⟩
  · intro running
    have kept : ∀ image : Image α,
        (JobStage.withSync .failed (some e.message) image).status = image.status := fun _ => rfl
    have waits : ((beat.before.count (.uploads false)).changeImage reference
        (JobStage.withSync .failed (some e.message))).store.scene.isRunning target = true := by
      rw [Workbench.isRunning_changeImage kept]
      exact running
    have concerned : (RunEvent.imageError ("reference upload failed: " ++ e.message)
        none).concerns target = true := rfl
    obtain ⟨-, image, found⟩ := Workbench.deliver_of_wanted concerned waits
    exact ⟨_, found, rfl, rfl⟩

variable {stage : JobStage α}

omit [Scalar α] in
private theorem Referenced.faithful (h : Referenced beats stage) : Faithful beats := by
  cases stage with
  | placing =>
    obtain rfl : beats = [] := h
    exact fun _ mem => absurd mem List.not_mem_nil
  | referencing =>
    obtain ⟨done, -, prepares⟩ := h
    exact prepares.unasked.faithful
  | uploading =>
    obtain ⟨-, done, -, prepares⟩ := h
    exact prepares.unasked.faithful
  | saving | requesting => exact Unasked.faithful (Prepares.unasked h)
  | acknowledged | following => exact h.2
  | concluding => exact h.elim Unasked.faithful And.right

omit [Scalar α] in
private theorem Referenced.names {request : RunRequest} (h : Referenced beats stage)
    (asks : stage.request? a = some request) : Names beats request := by
  cases stage with
  | requesting target hashes =>
    obtain rfl := Option.some.inj asks
    exact ⟨rfl, Prepares.looks h, Prepares.given h⟩
  | saving target hashes save => cases (JobStage.request?_saving a _ _ save).symm.trans asks
  | following target runId follow =>
    cases (JobStage.request?_following a _ _ follow).symm.trans asks
  | placing | referencing | uploading | acknowledged | concluding => cases asks

omit [Scalar α] in
private theorem Referenced.unasked (h : Referenced beats stage) (faulty : ¬ Faultless beats) :
    stage.request? a = none ∧ Unasked beats := by
  cases stage with
  | placing =>
    obtain rfl : beats = [] := h
    exact absurd (fun _ mem => absurd mem List.not_mem_nil) faulty
  | referencing =>
    obtain ⟨done, -, prepares⟩ := h
    exact absurd prepares.faultless faulty
  | uploading =>
    obtain ⟨-, done, -, prepares⟩ := h
    exact absurd prepares.faultless faulty
  | saving | requesting => exact absurd (Prepares.faultless h) faulty
  | acknowledged | following => exact absurd h.1 faulty
  | concluding => exact ⟨rfl, h.resolve_right fun other => faulty other.1⟩

end Steps

/-- What holds on the way of a job with its references.  All requests name the references.  A
reference that has just been uploaded, if it is an image still, is in step with the asset.  Once an
upload has failed no run is asked for, and the failure shows on the reference, if it is an image
still, and on the element of the job, if it waited. -/
structure Secures {a : Assignment α} (beats : List (Beat a)) (stage : JobStage α) : Prop where
  names : ∀ request, (stage.request? a = some request ∨
    ∃ beat ∈ beats, beat.request? = some request) → Names beats request
  synced : ∀ beat ∈ beats, ∀ target reference asset,
    beat.upload? = some ⟨target, reference, .ok asset⟩ →
    ∀ image, beat.before.store.scene.image? reference = some image →
      ∃ image', beat.after.store.scene.image? reference = some image' ∧
        image'.syncStatus = some .synced ∧ image'.assetId = some asset.id ∧
        image'.contentHash = some asset.contentHash
  failed : ∀ beat ∈ beats, ∀ target reference e,
    beat.upload? = some ⟨target, reference, .error e⟩ →
    (stage.request? a = none ∧ Unasked beats) ∧
    (∀ image, beat.before.store.scene.image? reference = some image →
      ∃ image', beat.after.store.scene.image? reference = some image' ∧
        image'.syncStatus = some .failed ∧ image'.syncError = some e.message) ∧
    (beat.before.store.scene.isRunning target = true →
      ∃ image', beat.after.store.scene.image? target = some image' ∧ image'.status = .error ∧
        image'.errorMessage = some ("reference upload failed: " ++ e.message))

private theorem Course.secures {a : Assignment α} {beats : List (Beat a)} {stage : JobStage α}
    {b : Workbench α} (course : Course a beats stage b) : Secures beats stage := by
  have referenced := course.referenced
  constructor
  case names =>
    rintro request (asks | ⟨beat, mem, asked⟩)
    · exact referenced.names asks
    · exact referenced.faithful beat mem request asked
  case synced =>
    intro beat _ target reference asset ended image found
    refine ⟨JobStage.uploaded asset image, ?_, rfl, rfl, rfl⟩
    rw [Beat.uploaded ended, found]
    rfl
  case failed =>
    intro beat mem target reference e ended
    refine ⟨referenced.unasked fun faultless => ?_, Beat.unuploaded ended⟩
    obtain ⟨asset, well⟩ := faultless beat mem _ ended
    cases well

/-- Whatever is selected, the jobs for a text that refers to elements have as their references the
elements that carry the ids, in the order of first mention and each once.  On its way a job makes
sure of its references before it asks for a run. -/
theorem references_follow_text {canvas canvas' : Canvas α} {offered offered' : Bool}
    {text : String} {admission admission' : Admission} (scene : canvas.scene = canvas'.scene)
    (passed : Submission.check canvas offered text = .ok admission)
    (passed' : Submission.check canvas' offered' text = .ok admission')
    (mentions : ∃ before id digits after,
      Reference.Stands text.toList before id digits after)
    {store store' : Store α} {fallback fallback' : Size} {prompts prompts' : List String}
    {first first' : Nat} {job job' : Job}
    (queued : job ∈ (Submission.accept store admission fallback prompts first).2)
    (queued' : job' ∈ (Submission.accept store' admission' fallback' prompts' first').2) :
    job.references = job'.references ∧
    job.references.map some = (Reference.ids text.toList).map canvas.scene.keyOfRef? ∧
    (canvas.scene.keys.Nodup → job.references.Nodup) ∧
    (∃ id more, Reference.ids text.toList = id :: more ∧
      job.primaryReference? = canvas.scene.keyOfRef? id ∧
      job'.primaryReference? = canvas.scene.keyOfRef? id) ∧
    ∀ (a : Assignment α) (beats : List (Beat a)) (stage : JobStage α) (b : Workbench α),
      Course a beats stage b → Secures beats stage := by
  have some : Reference.ids text.toList ≠ [] := by
    obtain ⟨before, id, digits, after, stands⟩ := mentions
    exact List.ne_nil_of_mem (Reference.mem_ids_iff.mpr ⟨before, digits, after, stands⟩)
  have named := Submission.references_of_check passed some
  have named' := Submission.references_of_check passed' some
  rw [← Submission.references_of_mem_jobs queued] at named
  rw [← Submission.references_of_mem_jobs queued', ← scene] at named'
  have same : job.references = job'.references :=
    List.map_injective_iff.mpr (Option.some_injective Key) (named.trans named'.symm)
  refine ⟨same, named, fun nodup => Reference.nodup_of_map nodup (Reference.nodup_ids _) named, ?_,
    fun a beats stage b course => course.secures⟩
  obtain ⟨id, more, ids⟩ := List.exists_cons_of_ne_nil some
  have head : job.references.head?.map Option.some = Option.some (canvas.scene.keyOfRef? id) := by
    rw [← List.head?_map, named, ids]
    rfl
  obtain ⟨key, is_head, is_key⟩ := Option.map_eq_some_iff.mp head
  refine ⟨id, more, ids, is_head.trans is_key, ?_⟩
  rw [Job.primaryReference?, ← same]
  exact is_head.trans is_key

/-- A generator, a cat of which only the local bitmap is there, and a dog that is stored. -/
def petScene : Scene Float :=
  let box : Rect Float := ⟨0.0, 0.0, 64.0, 64.0⟩
  let cat : Image Float := .ofSrc "data:image/png;base64,AAAA"
  let dog : Image Float :=
    { Image.ofSrc "https://assets.test/2" with
      contentHash := some "hash-2"
      syncStatus := some .synced }
  ⟨[⟨⟨"seed"⟩, box, none, .generator ⟨"fox", none, none, false, false⟩⟩,
    ⟨⟨"cat"⟩, box, some 1, .image cat⟩, ⟨⟨"dog"⟩, box, some 2, .image dog⟩], 3⟩

def petCanvas (selected : Key) : Canvas Float :=
  { Canvas.blank with
    scene := petScene
    selection := .only selected }

def petBench : Workbench Float := ⟨0, .ofCanvas (petCanvas ⟨"seed"⟩), Metrics.none, 0⟩

def petText : String := "fox @img2 @img1"

def petAdmission (seed : Option Key) : Admission :=
  ⟨⟨petText, petText, none, [2, 1]⟩, ⟨[⟨"dog"⟩, ⟨"cat"⟩], seed, none⟩⟩

def petWork : Assignment Float :=
  { job := ⟨0, petText, petText, [⟨"dog"⟩, ⟨"cat"⟩], some ⟨"seed"⟩, Size.standard⟩
    offered := ⟨true, true, true⟩
    timeout := 1000
    retry := RetryPolicy.standard }

private theorem tokens_petText : Reference.tokens petText.toList =
    "fox ".toList.map .char ++ [.reference 2 ['2'], .char ' ', .reference 1 ['1']] := by
  have whole : petText.toList = "fox ".toList ++
      (Reference.opening ++ ['2'] ++ ([' '] ++ (Reference.opening ++ ['1'] ++ []))) := by decide
  have dog : Reference.Spelled 2 ['2'] ([' '] ++ (Reference.opening ++ ['1'] ++ [])) := by
    constructor <;> simp [Text.numeralValue, Text.digitValue, Text.max32]
  have cat : Reference.Spelled 1 ['1'] [] := by
    constructor <;> simp [Text.numeralValue, Text.digitValue, Text.max32]
  have unbound (free : Bool) : Reference.freeAfter free [' '] = true := rfl
  have unbound' : Reference.freeAfter true "fox ".toList = true := by decide
  rw [Reference.tokens, whole, Reference.tokensFrom_append_of_notMem true (by decide), unbound',
    Reference.tokensFrom_reference dog, Reference.tokensFrom_append_of_notMem false (by decide),
    unbound, Reference.tokensFrom_reference cat, Reference.tokensFrom]
  rfl

private theorem ids_petText : Reference.ids petText.toList = [2, 1] := by
  rw [Reference.ids, tokens_petText]
  decide

private theorem parse_petText : Prompt.parse petText = .ok ⟨petText, petText, none, [2, 1]⟩ := by
  have plain : '(' ∉ petText.toList := by decide
  have words : Reference.hasWords petText.toList = true := by
    rw [Reference.hasWords, tokens_petText]
    decide
  have collapsed : Text.collapse petText.toList = petText.toList := by decide
  rw [Prompt.parse_of_not_isInfix (Directive.not_isInfix_of_notMem plain) words, ids_petText,
    collapsed, String.ofList_toList]

/-- With the generator selected or the cat, the references are the dog and the cat.  The job for the
generator asks for its run when the cat is uploaded, and does not when the upload fails. -/
theorem pets_follow_text :
    (∃ job' ∈ (Submission.accept (.ofCanvas (petCanvas ⟨"cat"⟩)) (petAdmission none) Size.standard
      [petText] 0).2, job'.seed = none ∧ petWork.job.references = job'.references) ∧
    (∃ beats b, Course petWork beats (.requesting ⟨"seed"⟩ ["hash-2", "hash-1"]) b ∧
      Names beats (.ofReferences petText ⟨"seed"⟩ Size.standard ["hash-2", "hash-1"])) ∧
    ∃ beats b applied, Course petWork beats (.concluding ⟨"seed"⟩ applied) b ∧ Unasked beats := by
  have passed : Submission.check (petCanvas ⟨"seed"⟩) true petText =
      .ok (petAdmission (some ⟨"seed"⟩)) := by
    rw [Submission.check, if_pos rfl, parse_petText]
    rfl
  have passed' : Submission.check (petCanvas ⟨"cat"⟩) true petText = .ok (petAdmission none) := by
    rw [Submission.check, if_pos rfl, parse_petText]
    rfl
  have mentions : ∃ before id digits after,
      Reference.Stands petText.toList before id digits after := by
    have mem : 2 ∈ Reference.ids petText.toList := by rw [ids_petText]; decide
    obtain ⟨before, digits, after, stands⟩ := Reference.mem_ids_iff.mp mem
    exact ⟨before, 2, digits, after, stands⟩
  have queued : petWork.job ∈ (Submission.accept (.ofCanvas (petCanvas ⟨"seed"⟩))
      (petAdmission (some ⟨"seed"⟩)) Size.standard [petText] 0).2 := List.mem_singleton_self _
  have queued' : { petWork.job with seed := none } ∈ (Submission.accept
      (.ofCanvas (petCanvas ⟨"cat"⟩)) (petAdmission none) Size.standard [petText] 0).2 :=
    List.mem_singleton_self _
  have scene : (petCanvas ⟨"seed"⟩).scene = (petCanvas ⟨"cat"⟩).scene := rfl
  obtain ⟨same, -, -, -, secures⟩ :=
    references_follow_text scene passed passed' mentions queued queued'
  obtain ⟨beats, b, uploading⟩ : ∃ beats b, Course petWork beats (.uploading ⟨"seed"⟩ ⟨"cat"⟩
      (.ofSrc "data:image/png;base64,AAAA") [] ["hash-2"]) b := by
    have placed := (Course.start (a := petWork) petBench).step () rfl
    have dog := placed.step () rfl
    have cat := dog.step () rfl
    exact ⟨_, _, cat⟩
  refine ⟨⟨_, queued', rfl, same⟩, ?_, ?_⟩
  · have uploaded :=
      uploading.step (.ok ⟨"asset-1", "hash-1", "https://assets.test/1", none, none⟩) rfl
    have saving := uploaded.step () rfl
    have sending := saving.step () rfl
    have sent := sending.step (.ok ()) rfl
    have requesting := sent.step () rfl
    exact ⟨_, _, requesting, (secures _ _ _ _ requesting).names _ (.inl rfl)⟩
  · have failed := uploading.step (.error (.unavailable "full")) rfl
    have unasked := (secures _ _ _ _ failed).failed _
      (List.mem_append_right _ (List.mem_singleton_self _)) _ _ _ rfl
    exact ⟨_, _, _, failed, unasked.1.2⟩

end PromptCanvas

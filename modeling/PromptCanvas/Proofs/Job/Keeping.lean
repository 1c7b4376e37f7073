import Mathlib.Data.List.Forall2
import Mathlib.Data.List.Induction
import PromptCanvas.Job.Submission
import PromptCanvas.Process.Generate
import PromptCanvas.Proofs.Process.FreshName
import PromptCanvas.Proofs.Process.Save
import PromptCanvas.Proofs.Run.FirstResult

/-!
Generating images loses nothing of a scene.

What jobs, followers and submissions do to a store are deeds, in any order and each at whatever it
finds.  A deed leaves all elements in their places and changes what some of them show, or puts one
new element on top.
-/

set_option autoImplicit false
set_option relaxedAutoImplicit false

namespace PromptCanvas

/-- Something that is done to a workbench so that images are generated. -/
inductive Deed (α : Type) where
  | accept (admission : Admission) (fallback : Size) (prompts : List String) (first : Nat)
  | job (a : Assignment α) (stage : JobStage α) (reply : (stage.ask a).Answer)
  /-- A follower of a run that was taken up again goes on with an answer. -/
  | follow (f : Followed) (stage : FollowStage α) (reply : (stage.ask f).Answer)
  | deliver (key : Key) (event : RunEvent)
  | elsewhere (now : Nat) (metrics : Metrics) (issued : Nat)

namespace Deed

variable {α : Type} [Scalar α]

def perform (b : Workbench α) : Deed α → Workbench α
  | accept admission fallback prompts first =>
    { b with store := (Submission.accept b.store admission fallback prompts first).1 }
  | job a stage reply => (stage.resume a b reply).2
  | follow f stage reply => (stage.resume f b reply).2
  | deliver key event => (b.deliver key event).2
  | elsewhere now metrics issued => { b with now, metrics, issued }

def performAll (b : Workbench α) (deeds : List (Deed α)) : Workbench α := deeds.foldl perform b

end Deed

section Plain

variable {α : Type}

/-- What may become of a content that is worked on: an image keeps its prompt and, unless it waited
for a result, its source and status. -/
inductive Content.Tended : Content α → Content α → Prop
  | refl (content : Content α) : Tended content content
  | image {i i' : Image α} : i'.prompt = i.prompt →
      (i.status ≠ .running → i'.src = i.src ∧ i'.status = i.status) → Tended (.image i) (.image i')

/-- What a deed can make of the content of an element. -/
inductive Deed.Makes (deed : Deed α) (key : Key) : Content α → Content α → Prop
  | tended {content content' : Content α} : content.Tended content' →
      Makes deed key content content'
  | sized {admission : Admission} {fallback : Size} {prompts : List String} {first : Nat}
      {fitted : FittedSize} {g : Generator} :
      deed = .accept admission fallback prompts first → admission.target.seed = some key →
        fitted = (Submission.requestedSize admission fallback).normalized →
        Makes deed key (.generator g) (.generator
          { g with
            effectiveSize := some fitted.size
            sizeAdjusted := fitted.sizeAdjusted
            ratioAdjusted := fitted.ratioAdjusted })
  /-- A job turns the generator that is its seed into its placeholder. -/
  | filled {a : Assignment α} {g : Generator} :
      deed = .job a .placing () → a.job.seed = some key →
        Makes deed key (.generator g) (JobStage.placeholder a.job)

/-- What some deeds can make of the content of an element.  Shapes and texts stay as they are. -/
inductive Deed.MakeOf (deeds : List (Deed α)) (key : Key) : Content α → Content α → Prop
  | tended {content content' : Content α} : content.Tended content' →
      MakeOf deeds key content content'
  | sized {g g' : Generator} : g'.prompt = g.prompt → g'.requestedSize = g.requestedSize →
      MakeOf deeds key (.generator g) (.generator g')
  | filled {a : Assignment α} {g : Generator} {content : Content α} :
      .job a .placing () ∈ deeds → a.job.seed = some key →
        (JobStage.placeholder a.job).Tended content → MakeOf deeds key (.generator g) content

/-- An element whose content was changed in a certain way, and nothing else. -/
structure Element.Changed (R : Key → Content α → Content α → Prop) (e e' : Element α) : Prop where
  key : e'.key = e.key
  rect : e'.rect = e.rect
  refId : e'.refId = e.refId
  content : R e.key e.content e'.content

def Scene.Stays (R : Key → Content α → Content α → Prop) (s s' : Scene α) : Prop :=
  List.Forall₂ (Element.Changed R) s.elements s'.elements

/-- All elements are where they were, with contents changed in a certain way, and new ones are on
top, each with a fresh key of its own. -/
def Scene.Grows (R : Key → Content α → Content α → Prop) (s s' : Scene α) : Prop :=
  ∃ kept added, s'.elements = kept ++ added ∧
    List.Forall₂ (Element.Changed R) s.elements kept ∧
    (added.map Element.key).Nodup ∧
    ∀ e ∈ added, e.key ∉ s.keys ∧ ∃ n, e.key = ⟨freshName n⟩

section Relations

variable {R R' T : Key → Content α → Content α → Prop} {e f g : Element α} {s t u : Scene α}

private theorem Content.Tended.trans {b c d : Content α} (first : b.Tended c)
    (second : c.Tended d) : b.Tended d := by
  cases first with
  | refl => exact second
  | @image i i' prompt idle =>
    cases second with
    | refl => exact .image prompt idle
    | image prompt' idle' =>
      refine .image (prompt'.trans prompt) fun rests => ?_
      obtain ⟨src, status⟩ := idle rests
      obtain ⟨src', status'⟩ := idle' (status ▸ rests)
      exact ⟨src'.trans src, status'.trans status⟩

private theorem Element.Changed.trans (compose : ∀ key b c d, R key b c → R' key c d → T key b d)
    (first : e.Changed R f) (second : f.Changed R' g) : e.Changed T g := by
  refine ⟨second.key.trans first.key, second.rect.trans first.rect,
    second.refId.trans first.refId, ?_⟩
  have content := second.content
  rw [first.key] at content
  exact compose _ _ _ _ first.content content

private theorem Element.changed_refl (refl : ∀ key content, R key content content) (e : Element α) :
    e.Changed R e :=
  ⟨rfl, rfl, rfl, refl _ _⟩

private theorem changed_trans {es fs gs : List (Element α)}
    (compose : ∀ key b c d, R key b c → R' key c d → T key b d)
    (first : List.Forall₂ (Element.Changed R) es fs)
    (second : List.Forall₂ (Element.Changed R') fs gs) :
    List.Forall₂ (Element.Changed T) es gs :=
  forall₂_trans (fun _ _ _ changed next => changed.trans compose next) first second

private theorem changed_keys {es fs : List (Element α)}
    (changed : List.Forall₂ (Element.Changed R) es fs) : fs.map Element.key = es.map Element.key :=
  Scene.map_key_of_forall₂ (fun _ _ same => same.key) changed

namespace Scene

private theorem stays_refl (refl : ∀ key content, R key content content) (s : Scene α) :
    s.Stays R s :=
  List.forall₂_same.mpr fun e _ => e.changed_refl refl

private theorem Stays.mono (stays : s.Stays R t) (weaker : ∀ key b c, R key b c → T key b c) :
    s.Stays T t :=
  stays.imp fun _ _ changed =>
    ⟨changed.key, changed.rect, changed.refId, weaker _ _ _ changed.content⟩

private theorem stays_modify {key : Key} {change : Element α → Element α}
    (refl : ∀ key content, R key content content)
    (changed : ∀ e, s.get? key = some e → e.key = key →
      e.Changed R { change e with key }) : s.Stays R (s.modify key change) :=
  forall₂_changeFirst (fun e => e.changed_refl refl) fun e found =>
    changed e found (by simpa using List.find?_some found)

private theorem Stays.grows (stays : s.Stays R t) : s.Grows R t :=
  ⟨t.elements, [], (List.append_nil _).symm, stays, List.nodup_nil,
    fun _ mem => absurd mem List.not_mem_nil⟩

private theorem grows_insert {e : Element α} {n : Nat} (refl : ∀ key content, R key content content)
    (new : e.key ∉ s.keys) (fresh : e.key = ⟨freshName n⟩) (top : t.elements = s.elements ++ [e]) :
    s.Grows R t := by
  refine ⟨s.elements, [e], top, s.stays_refl refl, List.nodup_singleton _, fun other mem => ?_⟩
  obtain rfl := List.mem_singleton.mp mem
  exact ⟨new, n, fresh⟩

private theorem Grows.trans (compose : ∀ key b c d, R key b c → R' key c d → T key b d)
    (first : s.Grows R t) (second : t.Grows R' u) : s.Grows T u := by
  obtain ⟨kept, added, elements, changed, nodup, fresh⟩ := first
  obtain ⟨kept', added', elements', changed', nodup', fresh'⟩ := second
  -- What was on top is between what was kept of the scene and what is on top now.
  rw [elements] at changed'
  have below := List.forall₂_take_append _ _ _ changed'.flip
  have above := List.forall₂_drop_append _ _ _ changed'.flip
  have keys := changed_keys above.flip
  have keys' : t.keys = s.keys ++ added.map Element.key := by
    rw [Scene.keys, elements, List.map_append, changed_keys changed]
    rfl
  refine ⟨kept'.take kept.length, kept'.drop kept.length ++ added', ?_,
    changed_trans compose changed below.flip, ?_, fun e mem => ?_⟩
  · rw [elements', ← List.append_assoc, List.take_append_drop]
  · rw [List.map_append, keys]
    refine List.nodup_append.mpr ⟨nodup, nodup', fun key old key' new same => ?_⟩
    obtain ⟨e, mem, rfl⟩ := List.mem_map.mp new
    refine (fresh' e mem).1 ?_
    rw [keys']
    exact List.mem_append_right _ (same ▸ old)
  · rcases List.mem_append.mp mem with old | new
    · have there : e.key ∈ added.map Element.key := keys ▸ List.mem_map_of_mem old
      obtain ⟨other, mem', same⟩ := List.mem_map.mp there
      exact same ▸ fresh other mem'
    · refine ⟨fun old => (fresh' e new).1 ?_, (fresh' e new).2⟩
      rw [keys']
      exact List.mem_append_left _ old

def Tends (s t : Scene α) : Prop := s.Stays (fun _ => Content.Tended) t

private theorem tends_refl (s : Scene α) : s.Tends s := s.stays_refl fun _ => .refl

private theorem tends_of_eq (same : t = s) : s.Tends t := same ▸ s.tends_refl

private theorem Tends.trans (first : s.Tends t) (second : t.Tends u) : s.Tends u :=
  changed_trans (fun _ _ _ _ earlier later => earlier.trans later) first second

private theorem tends_modify {key : Key} {change : Image α → Image α}
    (prompt : ∀ i, (change i).prompt = i.prompt)
    (idle : s.isRunning key = true ∨ ∀ i, (change i).src = i.src ∧ (change i).status = i.status) :
    s.Tends (s.modify key fun e => e.mapImage change) := by
  refine stays_modify (fun _ => .refl) fun e found here => ?_
  have waits : s.isRunning key = e.isRunning := by rw [isRunning, found]; rfl
  rw [waits] at idle
  obtain ⟨key', rect, refId, content⟩ := e
  cases content with
  | image i =>
    refine ⟨here.symm, rfl, rfl, .image (prompt i) fun rests => ?_⟩
    rcases idle with running | keeps
    · exact absurd (of_decide_eq_true running) rests
    · exact keeps i
  | generator | shape | text => exact ⟨here.symm, rfl, rfl, .refl _⟩

end Scene

end Relations

private theorem Workbench.tends_changeImage (b : Workbench α) (key : Key)
    {change : Image α → Image α}
    (keeps : ∀ i, (change i).prompt = i.prompt ∧ (change i).src = i.src ∧
      (change i).status = i.status) :
    b.store.scene.Tends (b.changeImage key change).store.scene := by
  rw [scene_changeImage]
  exact Scene.tends_modify (fun i => (keeps i).1) (.inr fun i => (keeps i).2)

end Plain

variable {α : Type} [Scalar α]

private theorem Store.tends_deliver (s : Store α) (key : Key) (event : RunEvent) :
    s.scene.Tends (s.deliver key event).2.scene := by
  rw [deliver_eq]
  split
  · next wanted =>
    rw [scene_withScene]
    exact Scene.tends_modify event.prompt_deliver (.inl (Bool.and_eq_true_iff.mp wanted).2)
  · exact s.scene.tends_refl

namespace FollowStage

variable {f : Followed} {b : Workbench α}

private theorem store_payload (f : Followed) (b : Workbench α) (json : Json α) :
    (payload f b json).2.store = b.store ∨
      ∃ event, (payload f b json).2.store = (b.store.deliver f.key event).2 := by
  unfold payload
  split
  · exact .inl rfl
  · next event _ =>
    refine .inr ⟨event, ?_⟩
    split
    · next after delivered => exact congrArg (fun found => found.2.store) delivered.symm
    · next applied after _ delivered => exact congrArg (fun found => found.2.store) delivered.symm

theorem store_resume_item {stream rest : RunStream α} {deadline : Nat}
    {result : Except ServiceError (Json α)} :
    ((reading stream deadline).resume f b (.item result rest)).2.store =
      (item f b result).2.store := by
  rw [resume]
  split <;> next went => rw [went]

theorem store_resume (stage : FollowStage α) (reply : (stage.ask f).Answer) :
    (stage.resume f b reply).2.store = b.store ∨
      ∃ event, (stage.resume f b reply).2.store = (b.store.deliver f.key event).2 := by
  cases stage with
  | subscribing => exact .inl rfl
  | connecting found wake deadline =>
    rw [resume]
    split
    · cases found with
      | ok stream => exact .inl rfl
      | error e => exact .inr ⟨_, rfl⟩
    · exact .inr ⟨_, rfl⟩
  | reading stream deadline =>
    cases reply with
    | item result rest =>
      rw [store_resume_item]
      cases result with
      | ok json => exact store_payload f b json
      | error e => exact .inr ⟨_, rfl⟩
    | pause duration rest => exact .inl rfl
    | ended => exact .inr ⟨_, rfl⟩
  | pausing stream wake deadline =>
    rw [resume]
    split
    · exact .inl rfl
    · exact .inr ⟨_, rfl⟩
  | leaving stream applied => exact .inl rfl

private theorem tends_resume (stage : FollowStage α) (reply : (stage.ask f).Answer) :
    b.store.scene.Tends (stage.resume f b reply).2.store.scene := by
  rcases stage.store_resume (b := b) reply with same | ⟨event, delivered⟩
  · exact Scene.tends_of_eq (congrArg Store.scene same)
  · rw [delivered]
    exact b.store.tends_deliver f.key event

end FollowStage

namespace JobStage

variable {a : Assignment α} {b : Workbench α}

private theorem tends_giveUp (b : Workbench α) (target : Key) (message : String) :
    b.store.scene.Tends (giveUp b target message).2.store.scene :=
  b.store.tends_deliver target _

omit [Scalar α] in
private theorem tends_nextReference (a : Assignment α) (b : Workbench α) (target : Key)
    (hashes : List String) (left : List Key) :
    b.store.scene.Tends (nextReference a b target hashes left).2.store.scene := by
  cases left with
  | nil => exact Scene.tends_refl _
  | cons reference left =>
    rw [nextReference]
    split
    · exact Scene.tends_refl _
    · exact Scene.tends_refl _
    · exact b.tends_changeImage reference fun i => ⟨rfl, rfl, rfl⟩

private theorem tends_uploadEnded (b : Workbench α) (target reference : Key) (left : List Key)
    (hashes : List String) (reply : Except ServiceError Asset) :
    b.store.scene.Tends (uploadEnded b target reference left hashes reply).2.store.scene := by
  cases reply with
  | ok asset => exact (b.count (.uploads true)).tends_changeImage reference fun i => ⟨rfl, rfl, rfl⟩
  | error e =>
    have noted : b.store.scene.Tends ((b.count (.uploads false)).changeImage reference
        (withSync .failed (some e.message))).store.scene :=
      (b.count (.uploads false)).tends_changeImage reference fun i => ⟨rfl, rfl, rfl⟩
    exact noted.trans (tends_giveUp _ target _)

private theorem tends_saved (a : Assignment α) (b : Workbench α) (target : Key)
    (hashes : List String) : b.store.scene.Tends (saved a b target hashes).2.store.scene := by
  unfold saved
  split
  · exact Scene.tends_refl _
  · exact tends_giveUp b target _

private theorem tends_runStarted (b : Workbench α) (target : Key)
    (reply : Except ServiceError RunHandle) :
    b.store.scene.Tends (runStarted b target reply).2.store.scene := by
  cases reply with
  | ok handle =>
    rw [runStarted]
    split
    · next runId _ =>
      refine b.tends_changeImage target fun i => ?_
      unfold noteRun
      split <;> exact ⟨rfl, rfl, rfl⟩
    · exact tends_giveUp b target _
  | error e => exact tends_giveUp b target _

private theorem tends_resume {stage : JobStage α} (placed : stage ≠ .placing)
    (reply : (stage.ask a).Answer) :
    b.store.scene.Tends (stage.resume a b reply).2.store.scene := by
  cases stage with
  | placing => exact absurd rfl placed
  | referencing target left hashes => exact tends_nextReference a b target hashes left
  | uploading target reference source left hashes =>
    exact tends_uploadEnded b target reference left hashes reply
  | saving target hashes save =>
    have kept := (SaveStage.resume_keeps a.retry b reply).1
    rw [resume]
    split
    · next went =>
      rw [went] at kept
      exact Scene.tends_of_eq (congrArg Store.scene kept)
    · next b' went =>
      rw [went] at kept
      exact (Scene.tends_of_eq (congrArg Store.scene kept)).trans (tends_saved a b' target hashes)
  | requesting target hashes => exact Scene.tends_refl _
  | acknowledged target found wake => exact tends_runStarted b target found
  | following target runId follow =>
    have tended := FollowStage.tends_resume (f := a.followed target runId) (b := b) follow reply
    rw [resume]
    split <;> next went => rwa [went] at tended
  | concluding target applied => exact Scene.tends_refl _

omit [Scalar α] in
private theorem scene_convertSeed (job : Job) (store : Store α) (seed : Key) :
    (convertSeed job store seed).2.scene = store.scene.modify seed (convert job) := by
  rw [convertSeed, Store.updateElement_eq]
  cases found : store.scene.get? seed with
  | none => exact (Scene.modify_of_not_contains (Scene.get?_eq_none_iff.mp found)).symm
  | some e =>
    have contains : store.scene.contains seed = true := by rw [Scene.contains, found]; rfl
    rw [if_pos contains]
    exact Store.scene_withScene _ _

private theorem grows_placeNew {R : Key → Content α → Content α → Prop}
    (refl : ∀ key content, R key content content) (job : Job) (b : Workbench α) :
    b.store.scene.Grows R (placeNew job b).2.store.scene := by
  simp only [placeNew, Workbench.issue, Store.insertPlaced_eq]
  by_cases taken : b.store.scene.contains ⟨freshName b.issued⟩ = true
  · rw [if_pos taken]
    exact (Scene.stays_refl refl _).grows
  · rw [if_neg taken]
    have top := congrArg Scene.elements (b.store.scene_withScene { b.store.scene with
      elements := b.store.scene.elements ++ [Element.make ⟨freshName b.issued⟩ (placeholder job)
        (b.store.freeBox (Scalar.ofNat job.size.w) (Scalar.ofNat job.size.h) none)] })
    exact Scene.grows_insert refl (fun old => taken (Scene.contains_iff.mpr old)) rfl top

omit [Scalar α] in
private theorem tends_convertSeed {job : Job} {store : Store α} {seed : Key}
    (kept : (convertSeed job store seed).1 = false) :
    store.scene.Tends (convertSeed job store seed).2.scene := by
  rw [scene_convertSeed]
  refine Scene.stays_modify (fun _ => .refl) fun e found here => ?_
  have contains : store.scene.contains seed = true := by rw [Scene.contains, found]; rfl
  simp only [convertSeed, found, Store.updateElement_eq, if_pos contains] at kept
  have same : convert job e = e := by
    unfold convert
    split
    · next g content => rw [content] at kept; cases kept
    all_goals rfl
  rw [same, ← here]
  exact e.changed_refl (fun _ => .refl)

private theorem grows_place (a : Assignment α) (b : Workbench α) :
    b.store.scene.Grows (Deed.Makes (.job a .placing ())) (place a.job b).2.store.scene := by
  have refl (key : Key) (content : Content α) :
      Deed.Makes (.job a .placing ()) key content content := .tended (.refl content)
  unfold place
  split
  · exact grows_placeNew refl a.job b
  · next seed eq =>
    split
    · next store converted =>
      have scene := scene_convertSeed a.job b.store seed
      rw [converted] at scene
      rw [scene]
      refine (Scene.stays_modify refl fun e _ here => ?_).grows
      obtain ⟨key, rect, refId, content⟩ := e
      cases content with
      | generator g => exact ⟨here.symm, rfl, rfl, .filled rfl (eq.trans (congrArg some here.symm))⟩
      | image | shape | text => exact ⟨here.symm, rfl, rfl, refl _ _⟩
    · next store kept =>
      have tended := tends_convertSeed (congrArg Prod.fst kept)
      rw [kept] at tended
      exact (Scene.Stays.grows tended).trans
        (fun _ _ _ _ earlier later => .tended (earlier.trans later))
        (grows_placeNew (fun _ => .refl) a.job { b with store })

end JobStage

omit [Scalar α] in
private theorem Submission.stays_accept {store : Store α} {admission : Admission} {fallback : Size}
    {prompts : List String} {first : Nat} :
    store.scene.Stays (Deed.Makes (.accept admission fallback prompts first))
      (accept store admission fallback prompts first).1.scene := by
  have refl (key : Key) (content : Content α) :
      Deed.Makes (.accept admission fallback prompts first) key content content :=
    .tended (.refl content)
  simp only [accept, recordSize]
  split
  · exact Scene.stays_refl refl _
  · next seed eq =>
    rw [Store.updateElement_eq]
    split
    · change store.scene.Stays _ (store.withScene _).scene
      rw [Store.scene_withScene]
      refine Scene.stays_modify refl fun e _ here => ?_
      obtain ⟨key, rect, refId, content⟩ := e
      cases content with
      | generator g =>
        exact ⟨here.symm, rfl, rfl, .sized rfl (eq.trans (congrArg some here.symm)) rfl⟩
      | image | shape | text => exact ⟨here.symm, rfl, rfl, refl _ _⟩
    · exact Scene.stays_refl refl _

namespace Deed

variable {deed : Deed α} {deeds : List (Deed α)} {key : Key} {b c d : Content α}

private theorem grows_perform (deed : Deed α) (b : Workbench α) :
    b.store.scene.Grows deed.Makes (deed.perform b).store.scene := by
  have grows {s t : Scene α} (tended : s.Tends t) : s.Grows deed.Makes t :=
    (Scene.Stays.mono tended fun _ _ _ content => .tended content).grows
  cases deed with
  | accept admission fallback prompts first => exact Submission.stays_accept.grows
  | job a stage reply =>
    by_cases placing : stage = .placing
    · subst placing
      have grown := JobStage.grows_place a b
      rw [perform, JobStage.resume]
      split <;> next went => rwa [went] at grown
    · exact grows (JobStage.tends_resume placing reply)
  | follow f stage reply => exact grows (stage.tends_resume reply)
  | deliver key event => exact grows (b.store.tends_deliver key event)
  | elsewhere now metrics issued => exact grows (Scene.tends_refl _)

omit [Scalar α] in
private theorem MakeOf.concat (so_far : MakeOf deeds key b c) (next : deed.Makes key c d) :
    MakeOf (deeds ++ [deed]) key b d := by
  cases so_far with
  | tended tended =>
    cases next with
    | tended tended' => exact .tended (tended.trans tended')
    | sized eq seed fitted =>
      cases tended
      exact .sized rfl rfl
    | filled eq seed =>
      cases tended
      refine .filled ?_ seed (.refl _)
      rw [← eq]
      exact List.mem_append_right _ List.mem_cons_self
  | sized prompt size =>
    cases next with
    | tended tended =>
      cases tended
      exact .sized prompt size
    | sized eq seed fitted => exact .sized prompt size
    | filled eq seed =>
      refine .filled ?_ seed (.refl _)
      rw [← eq]
      exact List.mem_append_right _ List.mem_cons_self
  | filled mem seed shown =>
    cases next with
    | tended tended => exact .filled (List.mem_append_left _ mem) seed (shown.trans tended)
    | sized eq seed fitted => cases shown
    | filled eq seed => cases shown

private theorem performAll_concat (b : Workbench α) (deeds : List (Deed α)) (deed : Deed α) :
    performAll b (deeds ++ [deed]) = deed.perform (performAll b deeds) :=
  List.foldl_concat _ _ _ _

private theorem grows_performAll (b : Workbench α) (deeds : List (Deed α)) :
    b.store.scene.Grows (MakeOf deeds) (performAll b deeds).store.scene := by
  induction deeds using List.reverseRecOn with
  | nil => exact (Scene.stays_refl (fun _ content => .tended (.refl content)) _).grows
  | append_singleton deeds deed ih =>
    rw [performAll_concat]
    exact ih.trans (fun _ _ _ _ => MakeOf.concat) (deed.grows_perform _)

/-- Whatever is done in whatever order so that images are generated, no element goes, and each keeps
its key, its box, its reference id and its place; new elements come on top, with fresh keys that no
element had.  Shapes and texts stay as they are, a generator becomes nothing but the placeholder of
a job that is seeded on it, and an image that does not wait keeps its source and status.  This holds
of each deed, whatever it finds, and of all of them together. -/
theorem generating_loses_nothing :
    (∀ (b : Workbench α) (deed : Deed α),
      b.store.scene.Grows deed.Makes (deed.perform b).store.scene) ∧
    ∀ (b : Workbench α) (deeds : List (Deed α)),
      b.store.scene.Grows (MakeOf deeds) (performAll b deeds).store.scene :=
  ⟨fun b deed => deed.grows_perform b, grows_performAll⟩

end Deed

end PromptCanvas

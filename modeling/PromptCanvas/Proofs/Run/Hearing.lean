import PromptCanvas.Proofs.Job.Keeping
import PromptCanvas.Proofs.Job.Verdict
import PromptCanvas.Proofs.Run.Decision

/-!
A follower that hears a result stream to its end.

Until something decisive arrives a follower leaves everything as it is; what is decisive it delivers
in one step, and behind that it only leaves the stream.  So its element ends as the stream decides,
whatever others do meanwhile to other elements.
-/

set_option autoImplicit false
set_option relaxedAutoImplicit false

namespace PromptCanvas

section Plain

variable {α : Type}

def Image.Bears (image : Image α) : RunEvent → Prop
  | .imageDone asset _ => image.Shows asset
  | .imageError message _ => image.status = .error ∧ image.errorMessage = some message

namespace FollowStage

variable {f : Followed}

/-- What a follower is answered whose stream can be had: that it can, and what it shows. -/
def heard (f : Followed) (opened : Delayed (RunStream α)) (memory : Memory α) :
    (stage : FollowStage α) → (stage.ask f).Answer
  | subscribing => ⟨opened.delay, .ok opened.value⟩
  | reading stream _ => (memory.next stream.counted stream.cues).1
  | connecting .. | pausing .. | leaving .. => ()

/-- A follower that rests goes on when what it rests for is there, so that it does not time out. -/
def OnTime (b : Workbench α) : FollowStage α → Prop
  | connecting _ wake _ | pausing _ wake _ => wake ≤ b.now
  | subscribing | reading .. | leaving .. => True

inductive Awaits (opened : RunStream α) :
    FollowStage α → List (Except ServiceError (Json α)) → Prop
  | subscribing : Awaits opened subscribing opened.items
  | connecting {stream : RunStream α} {wake deadline : Nat} :
      Awaits opened (connecting (.ok stream) wake deadline) stream.items
  | reading {stream : RunStream α} {deadline : Nat} :
      Awaits opened (reading stream deadline) stream.items
  | pausing {stream : RunStream α} {wake deadline : Nat} :
      Awaits opened (pausing stream wake deadline) stream.items

def stepsLeft (opened : RunStream α) : FollowStage α → Nat
  | subscribing => 2 * opened.cues.length + 4
  | connecting (.ok stream) _ _ => 2 * stream.cues.length + 3
  | connecting (.error _) _ _ => 1
  | reading stream _ => 2 * stream.cues.length + 2
  | pausing stream _ _ => 2 * stream.cues.length + 3
  | leaving .. => 1

def remaining (opened : RunStream α) : Progress (FollowStage α) Applied → Nat
  | .more stage => stage.stepsLeft opened
  | .done _ => 0

end FollowStage

end Plain

variable {α : Type} [Scalar α]

namespace FollowStage

variable {f : Followed} {b : Workbench α} {item : Except ServiceError (Json α)}
  {event : RunEvent} {opened : Delayed (RunStream α)} {stage : FollowStage α}

private theorem store_deliver (b : Workbench α) (key : Key) (event : RunEvent) :
    (b.deliver key event).2.store = (b.store.deliver key event).2 :=
  rfl

private theorem item_of_decisive (waits : b.store.scene.isRunning f.key = true)
    (decisive : RunEvent.decisive? f.key item = some event) :
    (FollowStage.item f b item).1 = some event.effect ∧
      (FollowStage.item f b item).2.store = (b.store.deliver f.key event).2 := by
  have concerned := RunEvent.concerns_of_decisive decisive
  have effect := (Workbench.deliver_of_wanted concerned waits).1
  cases item with
  | error e =>
    obtain rfl := Option.some.inj decisive
    exact ⟨congrArg some effect, rfl⟩
  | ok json =>
    have read := (Option.filter_eq_some_iff.mp decisive).1
    simp only [FollowStage.item, payload, read]
    split
    · next delivered =>
      rw [delivered] at effect
      cases event <;> cases effect
    · next applied after _ delivered =>
      have store := store_deliver b f.key event
      rw [delivered] at effect store
      exact ⟨congrArg some effect, store⟩

private theorem item_of_indecisive (indecisive : RunEvent.decisive? f.key item = none) :
    (FollowStage.item f b item).2.store = b.store ∧
      (b.store.scene.isRunning f.key = true → (FollowStage.item f b item).1 = none) := by
  cases item with
  | error e => cases indecisive
  | ok json =>
    simp only [FollowStage.item, payload]
    cases read : RunEvent.ofJson? json with
    | none => exact ⟨rfl, fun _ => rfl⟩
    | some event =>
      have stray : event.concerns f.key = false := by
        simpa [RunEvent.decisive?, read, Option.filter_some] using indecisive
      simp only [Workbench.deliver_of_unwanted (b := b) (by rw [stray]; rfl)]
      exact ⟨rfl, fun waits => if_pos waits⟩

private theorem remaining_resume (opened : Delayed (RunStream α)) (memory : Memory α)
    (stage : FollowStage α) (b : Workbench α) :
    remaining opened.value (stage.resume f b (stage.heard f opened memory)).1 <
      stage.stepsLeft opened.value := by
  cases stage with
  | subscribing => exact Nat.lt_succ_self _
  | connecting reply wake deadline =>
    rw [resume]
    split
    · cases reply with
      | ok stream => exact Nat.lt_succ_self _
      | error e => exact Nat.one_pos
    · cases reply <;> exact Nat.succ_pos _
  | reading stream deadline =>
    have next := memory.next_spec stream
    simp only [heard]
    generalize (memory.next stream.counted stream.cues).1 = shown at next
    cases next with
    | item arrives shorter =>
      rw [resume]
      split <;> simp only [remaining, stepsLeft] <;> omega
    | pause same shorter =>
      simp only [resume, remaining, stepsLeft]
      omega
    | ended nothing => exact Nat.succ_pos _
  | pausing stream wake deadline =>
    rw [resume]
    split
    · exact Nat.lt_succ_self _
    · simp only [remaining, stepsLeft]
      omega
  | leaving stream applied => exact Nat.one_pos

variable {items : List (Except ServiceError (Json α))} {memory : Memory α}
  {went : Progress (FollowStage α) Applied} {b' : Workbench α}

/-- What a step does while nothing decisive has arrived: either it leaves the scene alone, and what
is still to arrive decides the same, or it delivers what the stream decides. -/
private theorem Awaits.resume (awaits : Awaits opened.value stage items) (timely : stage.OnTime b)
    (waits : b.store.scene.isRunning f.key = true)
    (step : stage.resume f b (stage.heard f opened memory) = (went, b')) :
    (b'.store = b.store ∧ ∃ next items', went = .more next ∧ Awaits opened.value next items' ∧
        RunEvent.decision f.key items' = RunEvent.decision f.key items) ∨
    (b'.store = (b.store.deliver f.key (RunEvent.decision f.key items)).2 ∧
      over? went = some (RunEvent.decision f.key items).effect) := by
  cases awaits with
  | subscribing =>
    cases step
    exact .inl ⟨rfl, _, _, rfl, .connecting, rfl⟩
  | @connecting stream wake deadline =>
    have reached : wake ≤ b.now := timely
    rw [FollowStage.resume, if_pos reached] at step
    cases step
    exact .inl ⟨rfl, _, _, rfl, .reading, rfl⟩
  | @pausing stream wake deadline =>
    have reached : wake ≤ b.now := timely
    rw [FollowStage.resume, if_pos reached] at step
    cases step
    exact .inl ⟨rfl, _, _, rfl, .reading, rfl⟩
  | @reading stream deadline =>
    have next := memory.next_spec stream
    simp only [heard] at step
    generalize (memory.next stream.counted stream.cues).1 = shown at next step
    cases next with
    | pause same =>
      cases step
      exact .inl ⟨rfl, _, _, rfl, .pausing, congrArg _ same⟩
    | ended nothing =>
      have concerned : (RunEvent.imageError "result stream ended" none).concerns f.key = true := rfl
      cases step
      rw [nothing]
      exact .inr ⟨rfl, congrArg some (Workbench.deliver_of_wanted concerned waits).1⟩
    | @item result rest arrives =>
      rw [arrives]
      rw [FollowStage.resume] at step
      cases decisive : RunEvent.decisive? f.key result with
      | some event =>
        obtain ⟨verdict, store⟩ := item_of_decisive waits decisive
        rw [RunEvent.decision_of_decisive decisive]
        split at step
        · next undecided => simp [undecided] at verdict
        · next applied after decided =>
          rw [decided] at verdict store
          cases step
          exact .inr ⟨store, verdict⟩
      | none =>
        obtain ⟨store, undecided⟩ := item_of_indecisive (b := b) decisive
        rw [RunEvent.decision_of_indecisive decisive]
        split at step
        · next after read =>
          rw [read] at store
          cases step
          exact .inl ⟨store, _, _, rfl, .reading, rfl⟩
        · next applied after decided => simp [decided, waits] at undecided

end FollowStage

private theorem Store.get?_deliver {s : Store α} {key : Key} {event : RunEvent} {e : Element α}
    (concerned : event.concerns key = true) (found : s.scene.get? key = some e)
    (waits : e.isRunning = true) :
    (s.deliver key event).2.scene.get? key = some (e.mapImage event.deliver) := by
  have running : s.scene.isRunning key = true := by
    rw [Scene.isRunning, found]
    exact waits
  obtain rfl : e.key = key := by simpa using List.find?_some found
  rw [deliver_eq, concerned, running, Bool.and_self, if_pos rfl, scene_withScene,
    Scene.get?_modify, found]
  rfl

/-- A step of a follower: its stage, what it found, and what it was answered. -/
structure Moment (α : Type) (f : Followed) where
  stage : FollowStage α
  before : Workbench α
  reply : (stage.ask f).Answer

namespace Moment

variable {f : Followed}

def after (moment : Moment α f) : Workbench α :=
  (moment.stage.resume f moment.before moment.reply).2

def Idle (moment : Moment α f) : Prop := moment.after.store = moment.before.store

/-- Among the steps one has delivered a result, and the others have left everything as it was. -/
def DeliverOnce (moments : List (Moment α f)) (event : RunEvent) : Prop :=
  ∃ earlier exit later, moments = earlier ++ exit :: later ∧
    (∀ moment ∈ earlier ++ later, moment.Idle) ∧
    exit.after.store = (exit.before.store.deliver f.key event).2

private theorem DeliverOnce.append {moments : List (Moment α f)} {event : RunEvent}
    {moment : Moment α f} (once : DeliverOnce moments event) (idle : moment.Idle) :
    DeliverOnce (moments ++ [moment]) event := by
  obtain ⟨earlier, exit, later, rfl, others, delivers⟩ := once
  refine ⟨earlier, exit, later ++ [moment], by simp, ?_, delivers⟩
  rw [← List.append_assoc]
  exact List.forall_mem_append.mpr ⟨others, List.forall_mem_singleton.mpr idle⟩

end Moment

/-- A follower on its way, from its start on: the steps that it has taken, oldest first, how far it
is, and what it finds.  It hears the given stream in time, and others do not touch its element. -/
inductive Hearing (f : Followed) (opened : Delayed (RunStream α)) (b₀ : Workbench α) :
    List (Moment α f) → Progress (FollowStage α) Applied → Workbench α → Prop
  | start : Hearing f opened b₀ [] (.more .subscribing) b₀
  | meanwhile {moments : List (Moment α f)} {went : Progress (FollowStage α) Applied}
      {b b' : Workbench α} (so_far : Hearing f opened b₀ moments went b)
      (apart : b'.store.scene.get? f.key = b.store.scene.get? f.key) :
      Hearing f opened b₀ moments went b'
  | step {moments : List (Moment α f)} {stage : FollowStage α}
      {went : Progress (FollowStage α) Applied} {b b' : Workbench α}
      (so_far : Hearing f opened b₀ moments (.more stage) b) (timely : stage.OnTime b)
      (memory : Memory α) (step : stage.resume f b (stage.heard f opened memory) = (went, b')) :
      Hearing f opened b₀ (moments ++ [⟨stage, b, stage.heard f opened memory⟩]) went b'

namespace Hearing

variable {f : Followed} {opened : Delayed (RunStream α)} {b₀ b : Workbench α}
  {moments : List (Moment α f)} {went : Progress (FollowStage α) Applied} {stage : FollowStage α}
  {e : Element α} {event : RunEvent}

private theorem length_add_remaining (hearing : Hearing f opened b₀ moments went b) :
    moments.length + FollowStage.remaining opened.value went ≤
      2 * opened.value.cues.length + 4 := by
  induction hearing with
  | start => exact Nat.le_of_eq (Nat.zero_add _)
  | meanwhile _ _ ih => exact ih
  | @step moments stage went b b' _ _ memory step ih =>
    have less := FollowStage.remaining_resume (f := f) opened memory stage b
    simp only [step] at less
    have before : moments.length + stage.stepsLeft opened.value ≤
        2 * opened.value.cues.length + 4 := ih
    rw [List.length_append, List.length_singleton]
    omega

private theorem exists_step (hearing : Hearing f opened b₀ moments (.more stage) b) :
    ∃ moment went b', Hearing f opened b₀ (moments ++ [moment]) went b' := by
  obtain ⟨later, same, timely⟩ :
      ∃ later : Workbench α, later.store = b.store ∧ stage.OnTime later := by
    cases stage with
    | connecting reply wake deadline => exact ⟨{ b with now := wake }, rfl, Nat.le_refl _⟩
    | pausing stream wake deadline => exact ⟨{ b with now := wake }, rfl, Nat.le_refl _⟩
    | subscribing | reading | leaving => exact ⟨b, rfl, trivial⟩
  exact ⟨_, _, _, (hearing.meanwhile (congrArg (·.scene.get? f.key) same)).step timely
    (Memory.empty 0) rfl⟩

structure Undecided (opened : RunStream α) (e : Element α) (moments : List (Moment α f))
    (went : Progress (FollowStage α) Applied) (b : Workbench α) : Prop where
  found : b.store.scene.get? f.key = some e
  idle : ∀ moment ∈ moments, moment.Idle
  awaits : ∃ stage items, went = .more stage ∧ stage.Awaits opened items ∧
    RunEvent.decision f.key items = RunEvent.decision f.key opened.items

/-- A follower that has heard something decisive has delivered it, and nothing else. -/
structure Decided (event : RunEvent) (e : Element α) (moments : List (Moment α f))
    (went : Progress (FollowStage α) Applied) (b : Workbench α) : Prop where
  found : b.store.scene.get? f.key = some (e.mapImage event.deliver)
  once : Moment.DeliverOnce moments event
  judged : FollowStage.over? went = some event.effect

private theorem undecided_or_decided (hearing : Hearing f opened b₀ moments went b)
    (found : b₀.store.scene.get? f.key = some e) (waits : e.isRunning = true) :
    Undecided opened.value e moments went b ∨
      Decided (RunEvent.decision f.key opened.value.items) e moments went b := by
  induction hearing with
  | start => exact .inl ⟨found, by simp, _, _, rfl, .subscribing, rfl⟩
  | meanwhile _ apart ih =>
    refine ih.imp (fun undecided => ⟨?_, undecided.idle, undecided.awaits⟩)
      fun decided => ⟨?_, decided.once, decided.judged⟩
    · exact apart.trans undecided.found
    · exact apart.trans decided.found
  | @step moments stage went b b' _ timely memory step ih =>
    have after : (⟨stage, b, stage.heard f opened memory⟩ : Moment α f).after = b' :=
      congrArg Prod.snd step
    rcases ih with ⟨present, idle, _, items, same_stage, awaits, same⟩ | ⟨present, once, judged⟩
    · cases same_stage
      have running : b.store.scene.isRunning f.key = true := by
        rw [Scene.isRunning, present]
        exact waits
      rcases awaits.resume timely running step with
        ⟨store, next, items', rfl, awaits', same'⟩ | ⟨store, judged⟩
      · refine .inl ⟨store ▸ present, ?_, next, items', rfl, awaits', same'.trans same⟩
        refine List.forall_mem_append.mpr ⟨idle, List.forall_mem_singleton.mpr ?_⟩
        exact (congrArg Workbench.store after).trans store
      · rw [same] at store judged
        refine .inr ⟨?_, ⟨moments, _, [], rfl, by simpa using idle, ?_⟩, judged⟩
        · rw [store]
          exact Store.get?_deliver (RunEvent.concerns_decision f.key _) present waits
        · exact (congrArg Workbench.store after).trans store
    · cases stage with
      | leaving stream applied =>
        cases step
        exact .inr ⟨present, once.append rfl, judged⟩
      | subscribing | connecting | reading | pausing => cases judged

private theorem Decided.bears (decided : Decided event e moments went b)
    (waits : e.isRunning = true) :
    ∃ image, b.store.scene.image? f.key = some image ∧ image.Bears event := by
  obtain ⟨image, own⟩ := e.content.exists_image_of_isRunning waits
  refine ⟨event.deliver image, ?_, ?_⟩
  · rw [Scene.image?, decided.found, Option.bind_some, Element.image?_mapImage, Element.image?, own]
    rfl
  · cases event with
    | imageDone asset meant => exact ⟨rfl, rfl, rfl, rfl, rfl⟩
    | imageError message meant => exact ⟨rfl, rfl⟩

/-- A follower of a run returns if it hears the stream of the run to its end, whatever others do
meanwhile to other elements.  What is decided about its element is what the first decisive arrival
decides, or a failure; that is delivered in one step, and no other step leaves a trace. -/
theorem first_decisive_arrival_decides (opened : Delayed (RunStream α))
    (found : b₀.store.scene.get? f.key = some e) (waits : e.isRunning = true) :
    (∀ moments went b, Hearing f opened b₀ moments went b →
      moments.length ≤ 2 * opened.value.cues.length + 4) ∧
    (∀ moments stage b, Hearing f opened b₀ moments (.more stage) b →
      ∃ moment went b', Hearing f opened b₀ (moments ++ [moment]) went b') ∧
    (∀ moments applied b, Hearing f opened b₀ moments (.done applied) b →
      ∃ event, event = RunEvent.decision f.key opened.value.items ∧ applied = event.effect ∧
        b.store.scene.get? f.key = some (e.mapImage event.deliver) ∧
        (∃ image, b.store.scene.image? f.key = some image ∧ image.Bears event) ∧
        Moment.DeliverOnce moments event) ∧
    (∀ (b : Workbench α) stream deadline json rest,
      (∀ event, RunEvent.ofJson? json = some event → event.concerns f.key = false) →
        ((FollowStage.reading stream deadline).resume f b (.item (.ok json) rest)).2.store =
          b.store) ∧
    ∀ (json : Json α) message target,
      RunEvent.ofJson? json = some (.imageError message target) →
        message = RunEvent.reason ((json.get? "payload").getD .null) := by
  refine ⟨fun moments went b hearing => ?_, fun moments stage b hearing => hearing.exists_step,
    fun moments applied b hearing => ?_, fun b stream deadline json rest stray => ?_,
    fun json message target => RunEvent.message_of_ofJson?⟩
  · exact Nat.le_trans (Nat.le_add_right _ _) hearing.length_add_remaining
  · rcases hearing.undecided_or_decided found waits with undecided | decided
    · obtain ⟨stage, items, same, -⟩ := undecided.awaits
      cases same
    · exact ⟨_, rfl, Option.some.inj decided.judged, decided.found, decided.bears waits,
        decided.once⟩
  · have indecisive : RunEvent.decisive? f.key (.ok json) = none := by
      refine Option.filter_eq_none_iff.mpr fun event read => ?_
      rw [stray event read]
      exact Bool.false_ne_true
    rw [FollowStage.store_resume_item]
    exact (FollowStage.item_of_indecisive indecisive).1

end Hearing

def owlRun : Followed := ⟨⟨"owl"⟩, "run-7", 1000⟩

def owl : Element Float :=
  ⟨⟨"owl"⟩, ⟨0.0, 0.0, 64.0, 64.0⟩, none,
    .image { (Image.ofSrc "" : Image Float) with status := .running, runId := some "run-7" }⟩

def owlBench : Workbench Float :=
  ⟨0, .ofCanvas { Canvas.blank with scene := ⟨[owl], 1⟩ }, Metrics.none, 0⟩

/-- What arrives for the owl: a payload that says nothing, a failure that another element is meant
by, and a failure without a reason. -/
def owlStream : RunStream Float :=
  let failure (members : List (String × Json Float)) : Cue Float :=
    .item (.ok (.obj [("type", .str "imageError"), ("payload", .obj members)]))
  .ofCues [.opening, .item (.ok (.str "hoot")), .pause 5, failure [("targetKey", .str "wren")],
    failure [], failure [("message", .str "late")]]

theorem owl_fails_without_reason :
    ∃ moments b image, Hearing owlRun ⟨0, owlStream⟩ owlBench moments (.done .error) b ∧
      b.store.scene.image? ⟨"owl"⟩ = some image ∧ image.status = .error ∧
      image.errorMessage = some "generation failed" := by
  let m : Memory Float := Memory.empty 0
  have subscribing := @Hearing.start _ _ owlRun ⟨0, owlStream⟩ owlBench
  have connecting := subscribing.step trivial m rfl
  have reading := connecting.step (Nat.le_refl 0) m rfl
  have pausing := (reading.step trivial m rfl).step trivial m rfl
  have rested : Hearing owlRun ⟨0, owlStream⟩ owlBench _ _ { owlBench with now := 5 } :=
    pausing.meanwhile rfl
  have stray := (rested.step (Nat.le_refl 5) m rfl).step trivial m rfl
  have leaving := stray.step trivial m rfl
  have left := leaving.step trivial m rfl
  have waits : owl.isRunning = true := rfl
  have found : owlBench.store.scene.get? owlRun.key = some owl := rfl
  obtain ⟨-, -, decides, -, -⟩ :=
    Hearing.first_decisive_arrival_decides ⟨0, owlStream⟩ found waits
  obtain ⟨event, decided, -, -, ⟨image, shown, bears⟩, -⟩ := decides _ _ _ left
  have failure : event = .imageError "generation failed" none := decided
  rw [failure] at bears
  exact ⟨_, _, image, left, shown, bears⟩

end PromptCanvas

import PromptCanvas.Proofs.Job.Verdict

set_option autoImplicit false
set_option relaxedAutoImplicit false

namespace PromptCanvas

variable {α : Type}

/-- A step of a job: its stage, what it found, and what it was answered. -/
structure Beat (a : Assignment α) where
  stage : JobStage α
  before : Workbench α
  reply : (stage.ask a).Answer

namespace Beat

variable {a : Assignment α}

/-- The result that the step was given, if it was given one. -/
def result? (beat : Beat a) : Option RunEvent := beat.stage.result? a beat.reply

def after [Scalar α] (beat : Beat a) : Workbench α :=
  (beat.stage.resume a beat.before beat.reply).2

end Beat

/-- What others may do before a stage goes on: anything, as long as the job works.  Behind its
verdict they may still do all but let the element wait anew. -/
def JobStage.Admits (stage : JobStage α) (b b' : Workbench α) : Prop :=
  ∀ key applied, stage.verdict? = some (key, applied) →
    b.store.scene.isRunning key = false → b'.store.scene.isRunning key = false

variable [Scalar α]

/-- A job on its way: the steps that it has taken, oldest first, its stage, and what it finds. -/
inductive Course (a : Assignment α) : List (Beat a) → JobStage α → Workbench α → Prop
  | start (b : Workbench α) : Course a [] .placing b
  | meanwhile {beats : List (Beat a)} {stage : JobStage α} {b b' : Workbench α}
      (so_far : Course a beats stage b) (others : stage.Admits b b') : Course a beats stage b'
  | step {beats : List (Beat a)} {stage next : JobStage α} {b b' : Workbench α}
      (so_far : Course a beats stage b) (reply : (stage.ask a).Answer)
      (went : stage.resume a b reply = (.more next, b')) :
      Course a (beats ++ [⟨stage, b, reply⟩]) next b'

variable {a : Assignment α} {beats : List (Beat a)} {stage next : JobStage α}
  {b b' : Workbench α} {key : Key} {applied : Applied}

/-- Among the steps there is one that brought the verdict, and behind it none that works. -/
def Concluded (beats : List (Beat a)) (key : Key) (applied : Applied) : Prop :=
  ∃ earlier exit later, beats = earlier ++ exit :: later ∧ exit.stage.verdict? = none ∧
    (∀ beat ∈ later, beat.stage.verdict? = some (key, applied)) ∧
    Settles key exit.result? exit.before exit.after applied

private theorem JobStage.resume_of_verdict (judged : stage.verdict? = some (key, applied))
    (reply : (stage.ask a).Answer) :
    stage.resume a b reply = (.more (.concluding key applied), b) ∨
      stage.resume a b reply =
        (.done ⟨some key, status b.store key applied, a.job.size⟩, b) := by
  cases stage with
  | following target runId follow =>
    obtain ⟨verdict, found, same⟩ := Option.map_eq_some_iff.mp judged
    cases same
    cases follow <;> cases found
    exact .inl rfl
  | concluding target verdict =>
    cases judged
    exact .inr rfl
  | placing | referencing | uploading | saving | requesting | acknowledged => cases judged

private theorem JobStage.target_of_working {reply : (stage.ask a).Answer} {outcome : JobOutcome}
    (working : stage.verdict? = none) (ended : stage.resume a b reply = (.done outcome, b')) :
    outcome.target = none := by
  cases stage with
  | placing =>
    rw [resume] at ended
    split at ended <;> cases ended
    rfl
  | saving target hashes save =>
    rw [resume] at ended
    split at ended <;> cases ended
  | following target runId follow =>
    rw [resume] at ended
    split at ended <;> cases ended
  | referencing | uploading | requesting | acknowledged => cases ended
  | concluding target applied => cases working

private theorem JobStage.verdict?_of_done {reply : (stage.ask a).Answer} {outcome : JobOutcome}
    (ended : stage.resume a b reply = (.done outcome, b')) (target : outcome.target = some key) :
    ∃ applied, stage.verdict? = some (key, applied) ∧ b' = b ∧
      outcome.status = status b.store key applied := by
  cases judged : stage.verdict? with
  | none =>
    have none := target_of_working judged ended
    simp [none] at target
  | some verdict =>
    obtain ⟨other, applied⟩ := verdict
    rcases resume_of_verdict (b := b) judged reply with went | went
    · cases went.symm.trans ended
    · cases went.symm.trans ended
      cases target
      exact ⟨applied, rfl, rfl, rfl⟩

private theorem Concluded.append {beat : Beat a} (h : Concluded beats key applied)
    (judged : beat.stage.verdict? = some (key, applied)) :
    Concluded (beats ++ [beat]) key applied := by
  obtain ⟨earlier, exit, later, rfl, working, rest, settled⟩ := h
  refine ⟨earlier, exit, later ++ [beat], by simp, working, ?_, settled⟩
  simpa [or_imp, forall_and] using ⟨rest, judged⟩

private theorem Course.concluded (h : Course a beats stage b)
    (judged : stage.verdict? = some (key, applied)) :
    b.store.scene.isRunning key = false ∧ Concluded beats key applied := by
  induction h with
  | start b => cases judged
  | meanwhile _ others ih =>
    obtain ⟨idle, concluded⟩ := ih judged
    exact ⟨others key applied judged idle, concluded⟩
  | @step beats stage next b b' _ reply went ih =>
    cases before : stage.verdict? with
    | none =>
      have settled := @JobStage.settles_resume _ _ b applied a key stage before reply (by
        rw [went]
        exact judged)
      refine ⟨?_, beats, ⟨stage, b, reply⟩, [], rfl, before, by simp, settled⟩
      rw [went] at settled
      exact settled.idle
    | some verdict =>
      rcases JobStage.resume_of_verdict (b := b) before reply with kept | ended
      · cases kept.symm.trans went
        cases judged
        obtain ⟨idle, concluded⟩ := ih before
        exact ⟨idle, concluded.append before⟩
      · cases ended.symm.trans went

/-- When a job ends with an element, the element is gone or does not wait any more.  One step has
settled it, and behind that step the job has only left: the result of a finished image has reached
the element while it waited, or a failure has, with its message, or it had stopped waiting before.
The outcome is a success just in the first of these cases. -/
theorem no_placeholder_left_waiting {outcome : JobOutcome} (course : Course a beats stage b)
    (reply : (stage.ask a).Answer) (ended : stage.resume a b reply = (.done outcome, b'))
    (target : outcome.target = some key) :
    b'.store.scene.isRunning key = false ∧
      ∃ applied, Concluded beats key applied ∧ (outcome.status = .done ↔ applied = .done) := by
  obtain ⟨applied, judged, rfl, status⟩ := JobStage.verdict?_of_done ended target
  obtain ⟨idle, concluded⟩ := course.concluded judged
  refine ⟨idle, applied, concluded, ?_⟩
  rw [status]
  cases applied <;> simp [JobStage.status]

def foxWork : Assignment Float :=
  { job := ⟨0, "fox", "fox", [], some ⟨"seed"⟩, Size.standard⟩
    offered := ⟨true, true, true⟩
    timeout := 1000
    retry := RetryPolicy.standard }

def foxBench : Workbench Float :=
  let seed : Element Float :=
    ⟨⟨"seed"⟩, ⟨0.0, 0.0, 64.0, 64.0⟩, none, .generator ⟨"fox", none, none, false, false⟩⟩
  ⟨0, .ofCanvas { Canvas.blank with scene := ⟨[seed], 1⟩ }, Metrics.none, 0⟩

def foxPayload : Json Float :=
  .obj [("type", .str "imageDone"), ("payload", .obj [("asset", .obj [("id", .str "asset-1"),
    ("contentHash", .str "hash-1"), ("url", .str "https://assets.test/1")])])]

theorem fox_reaches_seed :
    ∃ beats b, Course foxWork beats (.concluding ⟨"seed"⟩ .done) b ∧
      JobStage.resume foxWork b (.concluding ⟨"seed"⟩ .done) () =
        (.done ⟨some ⟨"seed"⟩, .done, Size.standard⟩, b) ∧
      b.store.scene.isRunning ⟨"seed"⟩ = false ∧ Concluded beats ⟨"seed"⟩ .done := by
  have placed := (Course.start (a := foxWork) foxBench).step () rfl
  have saving := placed.step () rfl
  have sending := saving.step () rfl
  have sent := sending.step (.ok ()) rfl
  have requesting := sent.step () rfl
  have acknowledged := requesting.step ⟨0, .ok ⟨some "run-1"⟩⟩ rfl
  have subscribing := acknowledged.step () rfl
  have connecting := subscribing.step ⟨0, .ok (.ofCues [])⟩ rfl
  have reading := connecting.step () rfl
  have leaving := reading.step (.item (.ok foxPayload) (.ofCues [])) rfl
  have concluding := leaving.step () rfl
  obtain ⟨idle, applied, concluded, done⟩ := no_placeholder_left_waiting concluding () rfl rfl
  obtain rfl := done.mp rfl
  exact ⟨_, _, concluding, rfl, idle, concluded⟩

end PromptCanvas

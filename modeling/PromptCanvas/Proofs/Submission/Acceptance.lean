import PromptCanvas.Proofs.Scene
import PromptCanvas.Proofs.Session.Rests
import PromptCanvas.Proofs.Store.Operations
import PromptCanvas.Proofs.Submission

/-!
What the step that accepts a submission does.

The size is noted on the seed, the jobs stand behind those that wait, in the order of their prompts,
and those that can start are at their first stage.  Each job has the place in the session that its
number says, which is where its result will be looked up.
-/

set_option autoImplicit false
set_option relaxedAutoImplicit false

namespace PromptCanvas

namespace Submission

variable {α : Type}

/-- What noting the size that is sent for a seed makes of a scene: a generator notes the size and
what fitting it changed, and everything else is as it was. -/
structure Notes (fitted : FittedSize) (seed : Option Key) (scene scene' : Scene α) : Prop where
  generator : ∀ key e g, seed = some key → scene.get? key = some e → e.content = .generator g →
    scene'.get? key = some
      { e with
        content := .generator
          { g with
            effectiveSize := some fitted.size
            sizeAdjusted := fitted.sizeAdjusted
            ratioAdjusted := fitted.ratioAdjusted } }
  other : ∀ key, (∀ e g, seed = some key → scene.get? key = some e → e.content ≠ .generator g) →
    scene'.get? key = scene.get? key

private theorem noteSize_of_generator {fitted : FittedSize} {e : Element α} {g : Generator}
    (shows : e.content = .generator g) :
    noteSize fitted e =
      { e with
        content := .generator
          { g with
            effectiveSize := some fitted.size
            sizeAdjusted := fitted.sizeAdjusted
            ratioAdjusted := fitted.ratioAdjusted } } := by
  rw [noteSize, shows]

private theorem noteSize_of_other {fitted : FittedSize} {e : Element α}
    (other : ∀ g, e.content ≠ .generator g) : noteSize fitted e = e := by
  unfold noteSize
  split
  · next g shows => exact absurd shows (other g)
  all_goals rfl

private theorem scene_recordSize (store : Store α) (key : Key) (fitted : FittedSize) :
    (recordSize store (some key) fitted).scene = store.scene.modify key (noteSize fitted) := by
  rw [recordSize, Store.updateElement_eq]
  split
  · exact Store.scene_withScene _ _
  · next absent => exact (Scene.modify_of_not_contains (Bool.eq_false_iff.mpr absent)).symm

private theorem notes_recordSize (store : Store α) (seed : Option Key) (fitted : FittedSize) :
    Notes fitted seed store.scene (recordSize store seed fitted).scene := by
  cases seed with
  | none =>
    constructor
    · intro key e g same
      cases same
    · intro key _
      rfl
  | some seed =>
    rw [scene_recordSize]
    constructor
    · intro key e g same found shows
      obtain rfl := Option.some.inj same
      have named : e.key = seed := Scene.key_of_get? found
      rw [Scene.get?_modify, found, Option.map_some, noteSize_of_generator shows, ← named]
    · intro key other
      by_cases same : key = seed
      · subst same
        rw [Scene.get?_modify]
        cases found : store.scene.get? key with
        | none => rfl
        | some e =>
          have named : e.key = key := Scene.key_of_get? found
          rw [Option.map_some, noteSize_of_other fun g => other e g rfl found, ← named]
      · exact Scene.get?_modify_of_ne same

section Jobs

variable (admission : Admission) (size : Size) (prompts : List String) (first : Nat)

private theorem map_requestText_jobs :
    (jobs admission size prompts first).map Job.requestText = prompts := by
  apply List.ext_getElem
  · simp [jobs]
  · intro place _ _
    simp [jobs]

private theorem map_seed_jobs (some : prompts ≠ []) :
    (jobs admission size prompts first).map Job.seed =
      admission.target.seed :: List.replicate (prompts.length - 1) none := by
  obtain ⟨prompt, rest, rfl⟩ := List.exists_cons_of_ne_nil some
  apply List.ext_getElem
  · simp [jobs]
  · intro place _ _
    cases place <;> simp [jobs]

private theorem mem_jobs {job : Job} (mem : job ∈ jobs admission size prompts first) :
    job.size = size ∧ job.references = admission.target.references := by
  obtain ⟨place, _, rfl⟩ := List.mem_mapIdx.mp mem
  exact ⟨rfl, rfl⟩

end Jobs

end Submission

def TaskEntry.work {α : Type} (t : TaskEntry α) : Nat × Task α := (t.workspace, t.task)

namespace Session

section Announce

variable {α : Type}

def bench (workspace : Workspace α) : Settings α × Canvas α :=
  (workspace.settings, workspace.store.canvas)

private theorem exists_putStore {s : Session α} {w : Nat} {workspace : Workspace α}
    (found : s.workspaces[w]? = some workspace) (store : Store α) :
    ∃ workspaces agenda workspace', s.putStore w store = { s with workspaces, agenda } ∧
      workspaces[w]? = some workspace' ∧ workspace'.settings = workspace.settings ∧
      workspace'.store.canvas = store.canvas := by
  obtain ⟨workspaces, agenda, eq⟩ :=
    exists_announce (s.changeWorkspace w fun workspace => { workspace with store }) w
  have kept := map_announce bench (fun _ _ => rfl) (fun _ => rfl)
    (s.changeWorkspace w fun workspace => { workspace with store }) w
  rw [eq] at kept
  have placed : (s.changeWorkspace w fun workspace => { workspace with store }).workspaces[w]? =
      some { workspace with store } := by
    rw [changeWorkspace, List.getElem?_modify, found]
    simp
  have here : (workspaces[w]?).map bench = some (bench { workspace with store }) := by
    rw [← List.getElem?_map, kept, List.getElem?_map, placed]
    rfl
  obtain ⟨workspace', found', same⟩ := Option.map_eq_some_iff.mp here
  obtain ⟨settings, canvas⟩ := Prod.mk.inj same
  exact ⟨workspaces, agenda, workspace', eq, found', settings, canvas⟩

end Announce

section Accept

variable {α : Type} {s : Session α} {w : Nat} {workspace : Workspace α}

def started (s : Session α) (w : Nat) (settings : Settings α) (job : Job) : Nat × Task α :=
  (w, .job ⟨job, s.services.offered, settings.streamTimeout, settings.retry⟩ .placing)

private theorem exists_startJobs (s : Session α) (w : Nat) (settings : Settings α)
    (jobs : List Job) :
    ∃ agenda tasks numbered, s.startJobs w settings jobs = { s with agenda, tasks, numbered } ∧
      tasks.map TaskEntry.work =
        s.tasks.map TaskEntry.work ++ jobs.map (s.started w settings) := by
  induction jobs generalizing s with
  | nil => exact ⟨_, _, _, rfl, by simp⟩
  | cons job rest ih =>
    have first : s.startJobs w settings (job :: rest) =
        (s.spawn w (.job ⟨job, s.services.offered, settings.streamTimeout, settings.retry⟩
          .placing)).2.startJobs w settings rest := rfl
    obtain ⟨agenda, tasks, numbered, eq, work⟩ :=
      ih (s.spawn w (.job ⟨job, s.services.offered, settings.streamTimeout, settings.retry⟩
        .placing)).2
    refine ⟨agenda, tasks, numbered, first.trans eq, ?_⟩
    rw [work, spawn, number, List.map_append, List.append_assoc]
    rfl

private theorem exists_putQueue (found : s.workspaces[w]? = some workspace)
    (drained : JobQueue × List Job) :
    ∃ agenda tasks numbered workspaces metrics,
      s.putQueue w drained = { s with agenda, tasks, numbered, workspaces, metrics } ∧
        tasks.map TaskEntry.work =
          s.tasks.map TaskEntry.work ++ drained.2.map (s.started w workspace.settings) ∧
        workspaces[w]? = some { workspace with queue := drained.1 } := by
  unfold putQueue
  rw [found]
  obtain ⟨agenda, tasks, numbered, eq, work⟩ := exists_startJobs
    ((s.changeWorkspace w fun workspace => { workspace with queue := drained.1 }).measure drained.1)
    w workspace.settings drained.2
  refine ⟨agenda, tasks, numbered, _, _, eq, work, ?_⟩
  rw [measure, changeWorkspace, List.getElem?_modify, found]
  simp

private theorem exists_counted (jobs : List Job) (s : Session α) :
    ∃ metrics, jobs.foldl (fun s _ => s.count .jobsSubmitted) s = { s with metrics } := by
  induction jobs generalizing s with
  | nil => exact ⟨_, rfl⟩
  | cons job rest ih =>
    obtain ⟨metrics, eq⟩ := ih (s.count .jobsSubmitted)
    exact ⟨metrics, eq⟩

/-- Prompts have become jobs: one job a prompt and in their order, all of one size and with the same
references, the first of them with the seed.  The jobs stand behind those that waited.  Those that
can start have done nothing yet, but the size has been noted on the seed. -/
structure Makes (w : Nat) (workspace : Workspace α) (seed : Option Key) (references : List Key)
    (size : FittedSize) (prompts : List String) (s s' : Session α) (jobs : List Job) : Prop where
  found : s.workspaces[w]? = some workspace
  requests : jobs.map Job.requestText = prompts
  sizes : ∀ job ∈ jobs, job.size = size.size
  references : ∀ job ∈ jobs, job.references = references
  seeds : jobs.map Job.seed = seed :: List.replicate (prompts.length - 1) none
  entries : s'.jobs = s.jobs ++ jobs.map fun job => ⟨job, none⟩
  numbers : ∀ job ∈ jobs, s'.jobs[job.number]? = some ⟨job, none⟩
  queued : ∃ workspace', s'.workspaces[w]? = some workspace' ∧
    Submission.Notes size seed workspace.store.scene workspace'.store.scene ∧
    ∃ drained, JobQueue.drain
        { workspace.queue with pending := workspace.queue.pending ++ jobs } = drained ∧
      workspace'.queue = drained.1 ∧
      s'.tasks.map TaskEntry.work =
        s.tasks.map TaskEntry.work ++ drained.2.map (s.started w workspace.settings)

private theorem entry_of_number {jobs : List Job} {before : List JobEntry}
    (numbers : jobs.map Job.number = List.range' before.length jobs.length) :
    ∀ job ∈ jobs, (before ++ jobs.map fun job => JobEntry.mk job none)[job.number]? =
      some ⟨job, none⟩ := by
  intro job mem
  obtain ⟨place, inside, rfl⟩ := List.getElem_of_mem mem
  have here : jobs[place].number = before.length + place := by
    have at_place := congrArg (fun numbers => numbers[place]?) numbers
    simpa [inside] using at_place
  rw [here, List.getElem?_append_right (Nat.le_add_right _ _), Nat.add_sub_cancel_left]
  simp [inside]

theorem makes_acceptJobs (id : Nat) (found : s.workspaces[w]? = some workspace)
    (admission : Admission) {prompts : List String} (some : prompts ≠ []) :
    ∃ jobs, (s.acceptJobs id w workspace admission prompts).results =
        s.results ++ [(id, .submitted (.ok jobs))] ∧
      Makes w workspace admission.target.seed admission.target.references
        (Submission.requestedSize admission workspace.settings.defaultSize).normalized prompts s
        (s.acceptJobs id w workspace admission prompts) jobs := by
  let fitted := (Submission.requestedSize admission workspace.settings.defaultSize).normalized
  let store := Submission.recordSize workspace.store admission.target.seed fitted
  let jobs := Submission.jobs admission fitted.size prompts s.jobs.length
  obtain ⟨workspaces, agenda, stored, put, there, settings, canvas⟩ :=
    exists_putStore found store
  obtain ⟨metrics, counted⟩ := exists_counted jobs { s with workspaces, agenda }
  let filed : Session α :=
    { s with workspaces, agenda, metrics, jobs := s.jobs ++ jobs.map fun job => ⟨job, none⟩ }
  obtain ⟨agenda', tasks, numbered, workspaces', metrics', drained, work, there'⟩ :=
    exists_putQueue (s := filed) there (workspace.queue.submit jobs)
  have whole : s.acceptJobs id w workspace admission prompts =
      { filed with
          agenda := agenda', tasks, numbered, workspaces := workspaces', metrics := metrics'
        : Session α }.finishCall id (.submitted (.ok jobs)) := by
    rw [← drained]
    unfold acceptJobs Submission.accept
    dsimp only
    rw [put, counted]
  have numbers : jobs.map Job.number = List.range' s.jobs.length jobs.length := by
    have many : jobs.length = prompts.length := List.length_mapIdx
    rw [many]
    exact Submission.map_number_jobs admission fitted.size prompts s.jobs.length
  refine ⟨jobs, by rw [whole]; rfl, ?_⟩
  rw [whole]
  constructor
  · exact found
  · exact Submission.map_requestText_jobs _ _ _ _
  · intro job mem
    exact (Submission.mem_jobs _ _ _ _ mem).1
  · intro job mem
    exact (Submission.mem_jobs _ _ _ _ mem).2
  · exact Submission.map_seed_jobs _ _ _ _ some
  · rfl
  · exact entry_of_number numbers
  · refine ⟨_, there', ?_, _, rfl, rfl, ?_⟩
    · have scene : stored.store.scene = store.scene := congrArg Canvas.scene canvas
      have notes := Submission.notes_recordSize workspace.store admission.target.seed fitted
      rwa [← scene] at notes
    · rw [settings] at work
      exact work

private theorem jobs_reap (s : Session α) (w : Nat) : (s.reap w).jobs = s.jobs := by
  have woken (s : Session α) (task : Option Nat) : (s.wakeTask task).jobs = s.jobs := by
    obtain ⟨agenda, eq⟩ := exists_wakeTask s task
    rw [eq]
  unfold reap
  split
  · rfl
  · split
    · rfl
    · exact (woken _ _).trans (woken _ _)

private theorem jobs_putQueue (s : Session α) (w : Nat) (drained : JobQueue × List Job) :
    (s.putQueue w drained).jobs = s.jobs := by
  cases found : s.workspaces[w]? with
  | none => simp only [putQueue, found]
  | some workspace =>
    obtain ⟨_, _, _, _, _, eq, -, -⟩ := exists_putQueue found drained
    rw [eq]

private theorem jobs_finishJob (s : Session α) (id w : Nat) (job : Job) (outcome : JobOutcome) :
    (s.finishJob id w job outcome).jobs =
      s.jobs.modify job.number fun entry => { entry with outcome := some outcome } := by
  unfold finishJob
  rw [jobs_reap]
  dsimp only [endTask]
  split
  · rfl
  · rw [jobs_putQueue]
    rfl

theorem outcome?_finishJob (s : Session α) (id w : Nat) (job : Job) (outcome : JobOutcome)
    (number : Nat) :
    (s.finishJob id w job outcome).outcome? number =
      if number = job.number ∧ number < s.jobs.length then some outcome
      else s.outcome? number := by
  rw [outcome?, outcome?, jobs_finishJob, List.getElem?_modify]
  by_cases own : number = job.number
  · subst own
    by_cases inside : job.number < s.jobs.length
    · simp [inside]
    · simp [inside]
  · have apart : job.number ≠ number := fun same => own same.symm
    simp [own, apart]

end Accept

end Session

end PromptCanvas

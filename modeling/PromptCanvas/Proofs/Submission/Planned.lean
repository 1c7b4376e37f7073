import PromptCanvas.Proofs.Submission.Acceptance
import PromptCanvas.Proofs.Submission.Rejection

/-!
Prompts that are accepted become jobs.

A plan makes several prompts of one text, and what it leaves out is known before any of them is
queued.  What a submission works with, the seed and the size that it asks for among it, is settled
when the text is checked; the seed may have become something else by the time that the plan comes.
-/

set_option autoImplicit false
set_option relaxedAutoImplicit false

namespace PromptCanvas

namespace Submission

def spoken (steps : List PlanStep) : List String :=
  steps.filterMap fun step =>
    let text := Text.trim step.prompt.toList
    if text = [] then none else some (String.ofList text)

/-- The prompts that jobs are made of, with what the plan service has answered if it was asked. -/
def promptsOf (request : String) : Option (List PlanStep) → List String
  | none => [request]
  | some steps => if spoken steps = [] then [request] else spoken steps

private theorem promptsOf_ne_nil (request : String) (answer : Option (List PlanStep)) :
    promptsOf request answer ≠ [] := by
  cases answer with
  | none => exact List.cons_ne_nil _ _
  | some steps =>
    rw [promptsOf]
    split
    · exact List.cons_ne_nil _ _
    · assumption

private theorem spoken_eq (steps : List PlanStep) :
    spoken steps = (((steps.map fun step => Text.trim step.prompt.toList).filter
      fun p => !p.isEmpty).map String.ofList) := by
  unfold spoken
  induction steps with
  | nil => rfl
  | cons step steps ih =>
    by_cases silent : Text.trim step.prompt.toList = []
    · simp [silent, ih]
    · simp [silent, ih]

private theorem plannedPrompts_eq (prompt : Prompt) (steps : List PlanStep) :
    plannedPrompts prompt steps = promptsOf prompt.requestText (some steps) := by
  simp only [plannedPrompts, promptsOf, spoken_eq, List.isEmpty_iff, List.map_eq_nil_iff]

variable {α : Type}

/-- The generator that a prompt fills, with its key: the only selected element, if it is one. -/
def seedOf (canvas : Canvas α) : Option (Key × Generator) :=
  (selected? canvas).bind fun e =>
    match e.content with
    | .generator g => some (e.key, g)
    | .image _ | .shape .. | .text .. => none

/-- The size that a prompt asks for: that of its directive, else that of the seed, else another. -/
def askedSize (prompt : Prompt) (canvas : Canvas α) (fallback : Size) : Size :=
  (prompt.size.or ((seedOf canvas).bind fun seed => seed.2.requestedSize)).getD fallback

section Seed

variable {canvas : Canvas α} {target : Target} {admission : Admission}

private theorem seed_of_resolveTarget {references : List Nat}
    (resolved : resolveTarget canvas references = .ok target) :
    target.seed = (seedOf canvas).map Prod.fst ∧
      target.requestedSize = (seedOf canvas).bind fun seed => seed.2.requestedSize := by
  unfold resolveTarget at resolved
  split at resolved
  · cases resolved
  · split at resolved
    · cases resolved
    · cases chosen : selected? canvas with
      | none =>
        simp only [chosen] at resolved
        cases resolved
        simp [seedOf, chosen]
      | some e =>
        simp only [chosen] at resolved
        split at resolved
        · cases resolved
        · obtain rfl := Except.ok.inj resolved
          cases shows : e.content with
          | generator g => simp [seedOf, chosen, withSelected, shows]
          | image image =>
            simp only [seedOf, chosen, withSelected, shows, Option.bind_some]
            split <;> exact ⟨rfl, rfl⟩
          | shape | text => simp [seedOf, chosen, withSelected, shows]

/-- The seed of a submission and the size that it asks for are those of the canvas on which the
text was checked. -/
private theorem seed_of_check {hasGeneration : Bool} {text : String}
    (passed : check canvas hasGeneration text = .ok admission) :
    admission.target.seed = (seedOf canvas).map Prod.fst ∧
      ∀ fallback,
        requestedSize admission fallback = askedSize admission.prompt canvas fallback := by
  unfold check at passed
  split at passed
  · split at passed
    · cases passed
    · split at passed
      · cases passed
      · next resolved =>
        cases passed
        obtain ⟨seed, size⟩ := seed_of_resolveTarget resolved
        refine ⟨seed, fun fallback => ?_⟩
        rw [requestedSize, askedSize, size]
  · cases passed

end Seed

end Submission

namespace Session

variable {α : Type} {id w : Nat} {text : String} {steps : List (Session α × Session α)}
  {s : Session α} {stage : SubmitStage}

/-- A text was looked at and found good. -/
structure Checked (w : Nat) (text : String) (first : Session α) (opened : Workspace α)
    (admission : Admission) : Prop where
  found : first.workspaces[w]? = some opened
  passed : Submission.check opened.store.canvas first.services.offered.generation text =
    .ok admission

def Plans (first : Session α) (opened : Workspace α) : Prop :=
  opened.settings.directPrompt = false ∧ first.services.offered.plan = true

/-- What the plan service has said to a submission: nothing where it is not asked. -/
inductive Answered (first : Session α) (opened : Workspace α) (request : String)
    (steps : List (Session α × Session α)) : Option (List PlanStep) → Prop
  | directly : ¬ first.Plans opened → Answered first opened request steps none
  | planned {asked : Session α × Session α} {plan : List PlanStep} :
      first.Plans opened → asked ∈ steps → (asked.1.services.planFor request).value = .ok plan →
      Answered first opened request steps (some plan)

/-- A submission was accepted in its last step: what was checked in its first step has become jobs
there. -/
def Accepted (w : Nat) (text : String) (steps : List (Session α × Session α)) (jobs : List Job) :
    Prop :=
  ∃ (first last : Session α × Session α) (opened workspace : Workspace α) (admission : Admission)
    (answer : Option (List PlanStep)),
    steps.head? = some first ∧ steps.getLast? = some last ∧
      Checked w text first.1 opened admission ∧
      Answered first.1 opened admission.prompt.requestText steps answer ∧
      Makes w workspace ((Submission.seedOf opened.store.canvas).map Prod.fst)
        admission.target.references
        (Submission.askedSize admission.prompt opened.store.canvas
          workspace.settings.defaultSize).normalized
        (Submission.promptsOf admission.prompt.requestText answer) last.1 last.2 jobs

structure AtPlan (id w : Nat) (text : String) (steps : List (Session α × Session α))
    (s : Session α) (first : Session α × Session α) (opened : Workspace α)
    (admission : Admission) : Prop where
  head : steps.head? = some first
  checked : Checked w text first.1 opened admission
  plans : first.1.Plans opened
  unknown : s.results.lookup id = none
  there : s.calls.lookup id = some (.submit w text (.planning admission)) ∨
    ∃ asked ∈ steps, ∃ wake, s.calls.lookup id = some (.submit w text (.planned admission
      (asked.1.services.planFor admission.prompt.requestText).value wake))

inductive Outcome (id w : Nat) (text : String) (steps : List (Session α × Session α))
    (s : Session α) : Prop
  | fresh : steps = [] → s.calls.lookup id = some (.submit w text .checking) →
      s.results.lookup id = none → Outcome id w text steps s
  | atPlan {first : Session α × Session α} {opened : Workspace α} {admission : Admission} :
      AtPlan id w text steps s first opened admission → Outcome id w text steps s
  | failed {e : ServiceError} : s.calls.lookup id = none →
      s.results.lookup id = some (.submitted (.error e)) → Outcome id w text steps s
  | accepted {jobs : List Job} : Accepted w text steps jobs → s.calls.lookup id = none →
      s.results.lookup id = some (.submitted (.ok jobs)) → Outcome id w text steps s

section Steps

variable {first : Session α × Session α} {opened workspace : Workspace α} {admission : Admission}
  {answer : Option (List PlanStep)}

private theorem outcome_acceptJobs {before : List (Session α × Session α)} {s' : Session α}
    (accepts : s.acceptJobs id w workspace admission
      (Submission.promptsOf admission.prompt.requestText answer) = s')
    (head : (before ++ [(s, s')]).head? = some first)
    (checked : Checked w text first.1 opened admission)
    (answered : Answered first.1 opened admission.prompt.requestText before answer)
    (found : s.workspaces[w]? = some workspace) (unknown : s.results.lookup id = none) :
    Outcome id w text (before ++ [(s, s')]) s' := by
  obtain ⟨jobs, results, makes⟩ := makes_acceptJobs id found admission
    (Submission.promptsOf_ne_nil admission.prompt.requestText answer)
  have gone : (s.acceptJobs id w workspace admission
      (Submission.promptsOf admission.prompt.requestText answer)).calls.lookup id = none :=
    lookup_finishCall _ _ _
  obtain ⟨seed, size⟩ := Submission.seed_of_check checked.passed
  rw [accepts] at results makes gone
  rw [seed, size] at makes
  have answered' :
      Answered first.1 opened admission.prompt.requestText (before ++ [(s, s')]) answer := by
    cases answered with
    | directly direct => exact .directly direct
    | planned plans mem said => exact .planned plans (List.mem_append_left _ mem) said
  have ended : s'.results.lookup id = some (.submitted (.ok jobs)) := by
    rw [results, List.lookup_append, unknown]
    simp
  exact .accepted ⟨first, (s, s'), opened, workspace, admission, answer, head,
    List.getLast?_concat, checked, answered', makes⟩ gone ended

private theorem outcome_checkPrompt (found : s.workspaces[w]? = some workspace)
    (there : s.calls.lookup id = some (.submit w text .checking))
    (unknown : s.results.lookup id = none) :
    Outcome id w text [(s, s.checkPrompt id w workspace text)]
      (s.checkPrompt id w workspace text) := by
  unfold checkPrompt
  split
  · exact .failed (lookup_finishCall _ _ _) (result_finishCall unknown _)
  · next admission passed =>
    have checked : Checked w text s workspace admission := ⟨found, passed⟩
    split
    · next direct =>
      have unplanned : ¬ s.Plans workspace := by
        rintro ⟨written, offered⟩
        simp [written, offered] at direct
      have made {s' : Session α} (accepts : s.acceptJobs id w workspace admission
          (Submission.promptsOf admission.prompt.requestText none) = s') :
          Outcome id w text ([] ++ [(s, s')]) s' :=
        outcome_acceptJobs accepts rfl checked (.directly unplanned) found unknown
      exact made rfl
    · next planned =>
      have plans : s.Plans workspace := by
        simpa [Plans] using planned
      exact .atPlan ⟨rfl, checked, plans, unknown, .inl (lookup_setCall there _)⟩

namespace AtPlan

private theorem head_concat (h : AtPlan id w text steps s first opened admission)
    (step : Session α × Session α) : (steps ++ [step]).head? = some first := by
  rw [List.head?_append, h.head]
  rfl

private theorem step (h : AtPlan id w text steps s first opened admission)
    (there : s.calls.lookup id = some (.submit w text stage)) :
    Outcome id w text (steps ++ [(s, (s.stepSubmit id w text stage).2)])
      (s.stepSubmit id w text stage).2 := by
  unfold stepSubmit
  split
  · exact .failed (lookup_finishCall _ _ _) (result_finishCall h.unknown _)
  · next workspace found =>
    rcases h.there with planning | ⟨asked, mem, wake, planned⟩
    · cases there.symm.trans planning
      refine .atPlan ⟨h.head_concat _, h.checked, h.plans, h.unknown, .inr ?_⟩
      exact ⟨_, List.mem_append_right _ List.mem_cons_self, _, lookup_setCall there _⟩
    · cases there.symm.trans planned
      by_cases due : [wake].any (· ≤ s.now) = true
      · have rested : s.restUntil (.call id) [wake] = (some (), s) := if_pos due
        simp only [rested]
        split
        · exact .failed (lookup_finishCall _ _ _) (result_finishCall h.unknown _)
        · next plan said =>
          rw [Submission.plannedPrompts_eq]
          exact outcome_acceptJobs rfl (h.head_concat _) h.checked (.planned h.plans mem said)
            found h.unknown
      · have rests : s.restUntil (.call id) [wake] =
            (none, { s with agenda := s.agenda.setTimers (.call id) [wake] }) := if_neg due
        simp only [rests]
        exact .atPlan ⟨h.head_concat _, h.checked, h.plans, h.unknown,
          .inr ⟨asked, List.mem_append_left _ mem, wake, planned⟩⟩

end AtPlan

private theorem Outcome.step (outcome : Outcome id w text steps s)
    (there : s.calls.lookup id = some (.submit w text stage)) :
    Outcome id w text (steps ++ [(s, (s.stepSubmit id w text stage).2)])
      (s.stepSubmit id w text stage).2 := by
  cases outcome with
  | fresh none checking unknown =>
    cases there.symm.trans checking
    subst none
    unfold stepSubmit
    split
    · exact .failed (lookup_finishCall _ _ _) (result_finishCall unknown _)
    · next workspace found => exact outcome_checkPrompt found there unknown
  | atPlan h => exact h.step there
  | failed gone => cases there.symm.trans gone
  | accepted _ gone => cases there.symm.trans gone

private theorem Submitting.outcome (run : Submitting id w text steps s) :
    Outcome id w text steps s := by
  induction run with
  | start checking unknown _ => exact .fresh rfl checking unknown
  | meanwhile _ calls results _ ih =>
    cases ih with
    | fresh none checking unknown =>
      exact .fresh none (calls.trans checking) (results.trans unknown)
    | atPlan h =>
      refine .atPlan ⟨h.head, h.checked, h.plans, results.trans h.unknown, ?_⟩
      rw [calls]
      exact h.there
    | failed gone ended => exact .failed (calls.trans gone) (results.trans ended)
    | accepted made gone ended => exact .accepted made (calls.trans gone) (results.trans ended)
  | step _ there ih => exact ih.step there

private theorem Submitting.pending (run : Submitting id w text steps s)
    (there : s.calls.lookup id = some (.submit w text stage)) :
    s.results.lookup id = none ∧ w < s.workspaces.length := by
  cases run.standing with
  | fresh _ inside _ unknown => exact ⟨unknown, inside⟩
  | waiting waits => exact ⟨waits.unknown, waits.inside⟩
  | failed _ gone => cases there.symm.trans gone
  | accepted _ _ gone => cases there.symm.trans gone

private theorem accepted_checkPrompt (unknown : s.results.lookup id = none)
    (found : s.workspaces[w]? = some workspace)
    (passed : Submission.check workspace.store.canvas s.services.offered.generation text =
      .ok admission) (direct : ¬ s.Plans workspace) :
    ∃ jobs, (s.stepSubmit id w text .checking).2.results.lookup id =
      some (.submitted (.ok jobs)) := by
  have written : (workspace.settings.directPrompt || !s.services.offered.plan) = true := by
    by_contra planned
    exact direct (by simpa [Plans] using planned)
  rw [stepSubmit, found]
  dsimp only
  rw [checkPrompt, passed]
  dsimp only
  rw [if_pos written]
  exact (result_acceptJobs unknown w workspace admission _).2

private theorem lookup_planning
    (there : s.calls.lookup id = some (.submit w text (.planning admission)))
    (inside : w < s.workspaces.length) :
    (s.stepSubmit id w text (.planning admission)).2.calls.lookup id =
      some (.submit w text (.planned admission
        (s.services.planFor admission.prompt.requestText).value
        (s.now + (s.services.planFor admission.prompt.requestText).delay))) := by
  rw [stepSubmit, List.getElem?_eq_getElem inside]
  exact lookup_setCall there _

private theorem accepted_of_planned {plan : List PlanStep} {wake : Nat}
    (unknown : s.results.lookup id = none) (inside : w < s.workspaces.length) (due : wake ≤ s.now) :
    ∃ jobs, (s.stepSubmit id w text (.planned admission (.ok plan) wake)).2.results.lookup id =
      some (.submitted (.ok jobs)) := by
  have rested : s.restUntil (.call id) [wake] = (some (), s) := if_pos (by simpa using due)
  rw [stepSubmit, List.getElem?_eq_getElem inside]
  dsimp only
  rw [rested]
  exact (result_acceptJobs unknown w _ admission _).2

/-- A submission that was accepted has made one job of each prompt that its plan speaks, or one job
of its text where it has no plan or the plan speaks none; the jobs stand in their order behind those
that waited, share one size and the references, and only the first has the seed, on which the size
was noted before.  A text that is good is accepted at once where it needs no plan; else it is put to
the plan service, and accepted when its plan has come.  Each job of the answer is at its own number,
where its result is found. -/
theorem planned_prompts_become_jobs (run : Submitting id w text steps s) :
    (∀ jobs, s.results.lookup id = some (.submitted (.ok jobs)) → Accepted w text steps jobs) ∧
    (∀ workspace admission, s.calls.lookup id = some (.submit w text .checking) →
      s.workspaces[w]? = some workspace →
      Submission.check workspace.store.canvas s.services.offered.generation text = .ok admission →
      ¬ s.Plans workspace →
      ∃ jobs, (s.stepSubmit id w text .checking).2.results.lookup id =
        some (.submitted (.ok jobs))) ∧
    (∀ admission, s.calls.lookup id = some (.submit w text (.planning admission)) →
      (s.stepSubmit id w text (.planning admission)).2.calls.lookup id =
        some (.submit w text (.planned admission
          (s.services.planFor admission.prompt.requestText).value
          (s.now + (s.services.planFor admission.prompt.requestText).delay)))) ∧
    (∀ admission plan wake,
      s.calls.lookup id = some (.submit w text (.planned admission (.ok plan) wake)) →
      wake ≤ s.now →
      ∃ jobs, (s.stepSubmit id w text (.planned admission (.ok plan) wake)).2.results.lookup id =
        some (.submitted (.ok jobs))) ∧
    (∀ (later : Session α) (task place : Nat) (job : Job) (outcome : JobOutcome) (number : Nat),
      (later.finishJob task place job outcome).outcome? number =
        if number = job.number ∧ number < later.jobs.length then some outcome
        else later.outcome? number) := by
  refine ⟨?_, ?_, ?_, ?_, fun later => later.outcome?_finishJob⟩
  · intro jobs ended
    cases run.outcome with
    | fresh _ _ unknown => cases ended.symm.trans unknown
    | atPlan h => cases ended.symm.trans h.unknown
    | failed _ ended' => cases ended.symm.trans ended'
    | accepted made _ ended' =>
      cases ended.symm.trans ended'
      exact made
  · intro workspace admission there found passed direct
    exact accepted_checkPrompt (run.pending there).1 found passed direct
  · intro admission there
    exact lookup_planning there (run.pending there).2
  · intro admission plan wake there due
    obtain ⟨unknown, inside⟩ := run.pending there
    exact accepted_of_planned unknown inside due

end Steps

section Sample

def penWorkspace : Workspace Float :=
  let pen : Element Float :=
    ⟨⟨"pen"⟩, ⟨8.0, 8.0, 64.0, 32.0⟩, none,
      .generator ⟨"", some ⟨1000, 500⟩, none, false, false⟩⟩
  { settings := { (Settings.standard : Settings Float) with directPrompt := false }
    store := .ofCanvas
      { Canvas.blank with
        scene := ⟨[pen], 1⟩
        selection := .only ⟨"pen"⟩ }
    queue := JobQueue.ofLimit 3
    autosaver := Autosaver.ofSettings (Settings.standard : Settings Float) 0 1
    followers := []
    held := true }

def animalPlan : List PlanStep := [⟨"a cat"⟩, ⟨"  "⟩, ⟨" a dog "⟩]

def animalDesk : Session Float :=
  let services : Rehearsal Float :=
    { Rehearsal.ofMemory (Memory.empty 0) with plan := some (.now (.ok animalPlan)) }
  { ofServices services with
    workspaces := [penWorkspace]
    current := some 0
    calls := [(2, .submit 0 "two animals" .checking)]
    numbered := 3 }

def animalAdmission : Admission :=
  ⟨⟨"two animals", "two animals", none, []⟩, ⟨[], some ⟨"pen"⟩, some ⟨1000, 500⟩⟩⟩

private theorem check_animals :
    Submission.check penWorkspace.store.canvas true "two animals" = .ok animalAdmission := by
  decide +kernel

theorem animals_queued :
    ∃ (steps : List (Session Float × Session Float)) (s : Session Float) (jobs : List Job),
      Submitting 2 0 "two animals" steps s ∧
        s.results.lookup 2 = some (.submitted (.ok jobs)) ∧
        jobs.map Job.requestText = ["a cat", "a dog"] ∧
        jobs.map Job.seed = [some ⟨"pen"⟩, none] ∧
        ∀ job ∈ jobs, job.size = ⟨1000, 504⟩ := by
  let asking := animalDesk.setCall 2 (.submit 0 "two animals" (.planning animalAdmission))
  let waiting := asking.setCall 2
    (.submit 0 "two animals" (.planned animalAdmission (.ok animalPlan) 0))
  let behind := (waiting.stepSubmit 2 0 "two animals"
    (.planned animalAdmission (.ok animalPlan) 0)).2
  have first : (animalDesk.stepSubmit 2 0 "two animals" .checking).2 = asking := by
    have found : animalDesk.workspaces[0]? = some penWorkspace := rfl
    have passed : Submission.check penWorkspace.store.canvas animalDesk.services.offered.generation
        "two animals" = .ok animalAdmission := check_animals
    rw [stepSubmit, found]
    dsimp only
    rw [checkPrompt, passed]
    rfl
  have began : Submitting 2 0 "two animals" [] animalDesk := .start rfl rfl Nat.zero_lt_one
  have asked : Submitting 2 0 "two animals" [(animalDesk, asking)] asking := by
    have run := Submitting.step began rfl
    rwa [first] at run
  have planned : Submitting 2 0 "two animals" [(animalDesk, asking), (asking, waiting)] waiting :=
    .step asked rfl
  have run : Submitting 2 0 "two animals"
      [(animalDesk, asking), (asking, waiting), (waiting, behind)] behind := .step planned rfl
  obtain ⟨-, -, -, due, -⟩ := planned_prompts_become_jobs planned
  obtain ⟨jobs, ended⟩ := due animalAdmission animalPlan 0 rfl (Nat.le_refl 0)
  obtain ⟨made, -⟩ := planned_prompts_become_jobs run
  obtain ⟨_, last, opened, workspace, admission, answer, ⟨⟩, ⟨⟩, checked, answered, makes⟩ :=
    made jobs ended
  obtain rfl : penWorkspace = opened := Option.some.inj checked.found
  obtain rfl : animalAdmission = admission :=
    Except.ok.inj (check_animals.symm.trans checked.passed)
  obtain rfl : penWorkspace = workspace := Option.some.inj makes.found
  have said : answer = some animalPlan := by
    cases answered with
    | directly direct => exact absurd ⟨rfl, rfl⟩ direct
    | planned _ mem said =>
      simp only [List.mem_cons, List.not_mem_nil, or_false] at mem
      rcases mem with rfl | rfl | rfl <;> cases said <;> rfl
  subst said
  refine ⟨_, behind, jobs, run, ended, ?_, ?_, ?_⟩
  · rw [makes.requests]
    decide
  · rw [makes.seeds]
    decide
  · intro job mem
    rw [makes.sizes job mem]
    decide

end Sample

end Session

end PromptCanvas

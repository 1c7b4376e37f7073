import PromptCanvas.Proofs.Session.Rests
import PromptCanvas.Proofs.Submission.Bars

/-!
Prompts that are rejected change nothing.

A submission checks its prompt, may wait for a plan, and is accepted in one step.  Others work in
the session meanwhile.  Before that one step the submission touches no workspace.
-/

set_option autoImplicit false
set_option relaxedAutoImplicit false

namespace PromptCanvas.Session

section Results

variable {α : Type} (s : Session α)

private theorem results_putStore (w : Nat) (store : Store α) :
    (s.putStore w store).results = s.results :=
  (rests_announce _ w).results

variable {s} {id : Nat} {call : Call α} {result : CallResult}

theorem lookup_setCall (there : s.calls.lookup id = some call) (next : Call α) :
    (s.setCall id next).calls.lookup id = some next := by
  have inside (calls : List (Nat × Call α)) (there : calls.lookup id = some call) :
      (calls.map fun entry => if entry.1 = id then (id, next) else entry).lookup id =
        some next := by
    induction calls with
    | nil => cases there
    | cons entry rest ih =>
      obtain ⟨number, work⟩ := entry
      by_cases same : number = id
      · simp [same]
      · have apart : (id == number) = false := by simpa using Ne.symm same
        rw [List.lookup_cons, apart] at there
        simpa [same, List.lookup_cons, apart] using ih there
  exact inside s.calls there

theorem lookup_finishCall (s : Session α) (id : Nat) (result : CallResult) :
    (s.finishCall id result).calls.lookup id = none := by
  refine List.lookup_eq_none_iff.mpr fun entry mem => ?_
  have apart : entry.1 ≠ id := by simpa using (List.mem_filter.mp mem).2
  simpa using Ne.symm apart

theorem result_finishCall (none : s.results.lookup id = none) (result : CallResult) :
    (s.finishCall id result).results.lookup id = some result := by
  change (s.results ++ [(id, result)]).lookup id = some result
  rw [List.lookup_append, none]
  simp

private theorem results_startJobs (s : Session α) (w : Nat) (settings : Settings α)
    (jobs : List Job) : (s.startJobs w settings jobs).results = s.results := by
  unfold startJobs
  induction jobs generalizing s with
  | nil => rfl
  | cons job rest ih => exact ih _

private theorem results_putQueue (s : Session α) (w : Nat) (drained : JobQueue × List Job) :
    (s.putQueue w drained).results = s.results := by
  unfold putQueue
  split
  · rfl
  · exact results_startJobs _ _ _ _

theorem result_acceptJobs (unknown : s.results.lookup id = none) (w : Nat)
    (workspace : Workspace α) (admission : Admission) (prompts : List String) :
    (s.acceptJobs id w workspace admission prompts).calls.lookup id = none ∧
      ∃ jobs, (s.acceptJobs id w workspace admission prompts).results.lookup id =
        some (.submitted (.ok jobs)) := by
  refine ⟨lookup_finishCall _ _ _, _, result_finishCall ?_ _⟩
  have counted (jobs : List Job) (s : Session α) :
      (jobs.foldl (fun s _ => s.count .jobsSubmitted) s).results = s.results := by
    induction jobs generalizing s with
    | nil => rfl
    | cons job rest ih => exact ih _
  rw [results_putQueue]
  refine (congrArg (List.lookup id) ((counted _ _).trans (results_putStore _ _ _))).trans ?_
  exact unknown

end Results

variable {α : Type}

/-- A submission in a session: the steps that it has taken, each with the session before and behind
it, and the session as it is now.  Between the steps others may do anything but take the call. -/
inductive Submitting (id w : Nat) (text : String) : List (Session α × Session α) → Session α → Prop
  | start {s : Session α} : s.calls.lookup id = some (.submit w text .checking) →
      s.results.lookup id = none → w < s.workspaces.length → Submitting id w text [] s
  | meanwhile {steps : List (Session α × Session α)} {s s' : Session α} :
      Submitting id w text steps s → s'.calls.lookup id = s.calls.lookup id →
        s'.results.lookup id = s.results.lookup id →
        s.workspaces.length ≤ s'.workspaces.length → Submitting id w text steps s'
  | step {steps : List (Session α × Session α)} {s : Session α} {stage : SubmitStage} :
      Submitting id w text steps s → s.calls.lookup id = some (.submit w text stage) →
        Submitting id w text (steps ++ [(s, (s.stepSubmit id w text stage).2)])
          (s.stepSubmit id w text stage).2

/-- The workspaces are as they were, each with its canvas, its revision and its queue, and no job or
task has come or gone. -/
structure Untouched (s s' : Session α) : Prop where
  workspaces : s'.workspaces = s.workspaces
  jobs : s'.jobs = s.jobs
  tasks : s'.tasks = s.tasks

def Barred (w : Nat) (text : String) (s : Session α) : Prop :=
  ∃ workspace, s.workspaces[w]? = some workspace ∧
    Submission.Bars workspace.store.canvas s.services.offered.generation text

def PlansFailElsewhere (s : Session α) : Prop :=
  ∀ request e, (s.services.planFor request).value = .error e → e.isInput = false

section Steps

variable {id w : Nat} {text : String} {steps : List (Session α × Session α)} {s s' : Session α}
  {stage : SubmitStage}

structure Waits (id w : Nat) (text : String) (steps : List (Session α × Session α))
    (s : Session α) (first : Session α × Session α) (stage : SubmitStage) : Prop where
  head : steps.head? = some first
  clear : ¬ Barred w text first.1
  inside : w < s.workspaces.length
  there : s.calls.lookup id = some (.submit w text stage)
  unknown : s.results.lookup id = none
  behind : stage ≠ .checking
  plans : ∀ admission e wake, stage = .planned admission (.error e) wake →
    (∀ step ∈ steps, step.1.PlansFailElsewhere) → e.isInput = false
  untouched : ∀ step ∈ steps, step.1.Untouched step.2

inductive Standing (id w : Nat) (text : String) (steps : List (Session α × Session α))
    (s : Session α) : Prop
  | fresh : steps = [] → w < s.workspaces.length →
      s.calls.lookup id = some (.submit w text .checking) → s.results.lookup id = none →
      Standing id w text steps s
  | waiting {first : Session α × Session α} {stage : SubmitStage} :
      Waits id w text steps s first stage → Standing id w text steps s
  | failed {first : Session α × Session α} {e : ServiceError} :
      steps.head? = some first → s.calls.lookup id = none →
      s.results.lookup id = some (.submitted (.error e)) →
      ((∀ step ∈ steps, step.1.PlansFailElsewhere) →
        (e.isInput = true ↔ Barred w text first.1)) →
      (∀ step ∈ steps, step.1.Untouched step.2) → Standing id w text steps s
  | accepted {first : Session α × Session α} {jobs : List Job} :
      steps.head? = some first → ¬ Barred w text first.1 → s.calls.lookup id = none →
      s.results.lookup id = some (.submitted (.ok jobs)) → Standing id w text steps s

private theorem standing_checkPrompt {workspace : Workspace α}
    (found : s.workspaces[w]? = some workspace)
    (there : s.calls.lookup id = some (.submit w text .checking))
    (unknown : s.results.lookup id = none) :
    Standing id w text [(s, s.checkPrompt id w workspace text)]
      (s.checkPrompt id w workspace text) := by
  have inside : w < s.workspaces.length := (List.getElem?_eq_some_iff.mp found).1
  have known {canvas : Workspace α} (other : s.workspaces[w]? = some canvas) :
      workspace = canvas := Option.some.inj (found.symm.trans other)
  have alone {s' : Session α} (untouched : s.Untouched s') :
      ∀ step ∈ [(s, s')], Untouched step.1 step.2 := by
    intro step mem
    obtain rfl := List.mem_singleton.mp mem
    exact untouched
  unfold checkPrompt
  split
  · next reason e failed =>
    obtain ⟨input, bars⟩ := Submission.bars_of_check failed
    refine .failed rfl (lookup_finishCall _ _ _) (result_finishCall unknown _) ?_
      (alone ⟨rfl, rfl, rfl⟩)
    exact fun _ => ⟨fun _ => ⟨workspace, found, bars⟩, fun _ => input⟩
  · next admission passed =>
    have clear : ¬ Barred w text s := by
      rintro ⟨other, found', bars⟩
      obtain rfl := known found'
      exact Submission.not_bars_of_check passed bars
    split
    · obtain ⟨gone, jobs, ended⟩ := result_acceptJobs unknown w workspace admission
        [admission.prompt.requestText]
      exact .accepted rfl clear gone ended
    · exact .waiting ⟨rfl, clear, inside, lookup_setCall there _, unknown, nofun, nofun,
        alone ⟨rfl, rfl, rfl⟩⟩

namespace Waits

variable {first : Session α × Session α}

private theorem head_concat (h : Waits id w text steps s first stage) (s' : Session α) :
    (steps ++ [(s, s')]).head? = some first := by
  rw [List.head?_append, h.head]
  rfl

private theorem untouched_concat (h : Waits id w text steps s first stage)
    (untouched : s.Untouched s') : ∀ step ∈ steps ++ [(s, s')], step.1.Untouched step.2 := by
  intro step mem
  rcases List.mem_append.mp mem with old | new
  · exact h.untouched step old
  · obtain rfl := List.mem_singleton.mp new
    exact untouched

private theorem step_planning {admission : Admission}
    (h : Waits id w text steps s first (.planning admission)) :
    Standing id w text (steps ++ [(s, (s.stepSubmit id w text (.planning admission)).2)])
      (s.stepSubmit id w text (.planning admission)).2 := by
  rw [stepSubmit, List.getElem?_eq_getElem h.inside]
  refine .waiting ⟨h.head_concat _, h.clear, h.inside, lookup_setCall h.there _, h.unknown, nofun,
    ?_, h.untouched_concat ⟨rfl, rfl, rfl⟩⟩
  intro admission' e wake eq plans
  obtain ⟨-, failed, -⟩ := SubmitStage.planned.inj eq
  exact plans _ (List.mem_append_right _ List.mem_cons_self) _ _ failed

private theorem step_planned {admission : Admission} {reply : Except ServiceError (List PlanStep)}
    {wake : Nat} (h : Waits id w text steps s first (.planned admission reply wake)) :
    Standing id w text (steps ++ [(s, (s.stepSubmit id w text (.planned admission reply wake)).2)])
      (s.stepSubmit id w text (.planned admission reply wake)).2 := by
  rw [stepSubmit, List.getElem?_eq_getElem h.inside]
  by_cases due : [wake].any (· ≤ s.now) = true
  · have rested : s.restUntil (.call id) [wake] = (some (), s) := if_pos due
    simp only [rested]
    cases reply with
    | error e =>
      refine .failed (h.head_concat _) (lookup_finishCall _ _ _) (result_finishCall h.unknown _) ?_
        (h.untouched_concat ⟨rfl, rfl, rfl⟩)
      intro plans
      have elsewhere : e.isInput = false :=
        h.plans admission e wake rfl fun step mem => plans step (List.mem_append_left _ mem)
      exact ⟨fun input => absurd (elsewhere.symm.trans input) Bool.false_ne_true,
        fun barred => absurd barred h.clear⟩
    | ok plan =>
      obtain ⟨gone, jobs, ended⟩ := result_acceptJobs h.unknown w _ admission
        (Submission.plannedPrompts admission.prompt plan)
      exact .accepted (h.head_concat _) h.clear gone ended
  · have rests : s.restUntil (.call id) [wake] =
        (none, { s with agenda := s.agenda.setTimers (.call id) [wake] }) := if_neg due
    simp only [rests]
    refine .waiting ⟨h.head_concat _, h.clear, h.inside, h.there, h.unknown, nofun, ?_,
      h.untouched_concat ⟨rfl, rfl, rfl⟩⟩
    intro admission' e wake' eq plans
    exact h.plans admission' e wake' eq fun step mem => plans step (List.mem_append_left _ mem)

end Waits

private theorem Standing.step (standing : Standing id w text steps s)
    (there : s.calls.lookup id = some (.submit w text stage)) :
    Standing id w text (steps ++ [(s, (s.stepSubmit id w text stage).2)])
      (s.stepSubmit id w text stage).2 := by
  cases standing with
  | fresh none inside checking unknown =>
    cases there.symm.trans checking
    subst none
    rw [stepSubmit, List.getElem?_eq_getElem inside]
    exact standing_checkPrompt (List.getElem?_eq_getElem inside) there unknown
  | @waiting first stage' waits =>
    cases there.symm.trans waits.there
    cases stage with
    | checking => exact absurd rfl waits.behind
    | planning admission => exact waits.step_planning
    | planned admission reply wake => exact waits.step_planned
  | failed head gone => cases there.symm.trans gone
  | accepted head clear gone => cases there.symm.trans gone

theorem Submitting.standing (run : Submitting id w text steps s) : Standing id w text steps s := by
  induction run with
  | start checking unknown inside => exact .fresh rfl inside checking unknown
  | meanwhile _ calls results more ih =>
    cases ih with
    | fresh none inside checking unknown =>
      exact .fresh none (Nat.lt_of_lt_of_le inside more) (calls.trans checking)
        (results.trans unknown)
    | waiting waits =>
      exact .waiting ⟨waits.head, waits.clear, Nat.lt_of_lt_of_le waits.inside more,
        calls.trans waits.there, results.trans waits.unknown, waits.behind, waits.plans,
        waits.untouched⟩
    | failed head gone ended input untouched =>
      exact .failed head (calls.trans gone) (results.trans ended) input untouched
    | accepted head clear gone ended =>
      exact .accepted head clear (calls.trans gone) (results.trans ended)
  | step _ there ih => exact ih.step there

/-- Whatever others do meanwhile, a submission that has not been accepted has touched nothing.  It
is rejected with an error of input just if something bars the prompt when it is looked at, unless
plans fail with such errors themselves. -/
theorem rejected_prompt_changes_nothing (run : Submitting id w text steps s) :
    ((∀ jobs, s.results.lookup id ≠ some (.submitted (.ok jobs))) →
      ∀ step ∈ steps, Untouched step.1 step.2) ∧
    ((∀ step ∈ steps, PlansFailElsewhere step.1) → ∀ first ∈ steps.head?,
      ((∃ e, s.results.lookup id = some (.submitted (.error e)) ∧ e.isInput = true) ↔
        Barred w text first.1)) := by
  cases run.standing with
  | fresh none inside checking unknown =>
    subst none
    exact ⟨fun _ step mem => absurd mem List.not_mem_nil, fun _ first mem => by cases mem⟩
  | waiting waits =>
    refine ⟨fun _ => waits.untouched, fun _ first mem => ?_⟩
    obtain rfl := Option.some.inj (waits.head.symm.trans mem)
    constructor
    · rintro ⟨e, ended, -⟩
      cases waits.unknown.symm.trans ended
    · exact fun barred => absurd barred waits.clear
  | failed head gone ended input untouched =>
    refine ⟨fun _ => untouched, fun plans first mem => ?_⟩
    obtain rfl := Option.some.inj (head.symm.trans mem)
    constructor
    · rintro ⟨e, ended', isInput⟩
      cases ended.symm.trans ended'
      exact (input plans).mp isInput
    · exact fun barred => ⟨_, ended, (input plans).mpr barred⟩
  | accepted head clear gone ended =>
    refine ⟨fun never => absurd ended (never _), fun _ first mem => ?_⟩
    obtain rfl := Option.some.inj (head.symm.trans mem)
    constructor
    · rintro ⟨e, ended', -⟩
      cases ended.symm.trans ended'
    · exact fun barred => absurd barred clear

end Steps

section Sample

/-- A prompt is to be checked while the only selected element waits for its result. -/
def owlDesk : Session Float :=
  let owl : Element Float :=
    ⟨⟨"owl"⟩, ⟨8.0, 8.0, 64.0, 32.0⟩, none, .image (Image.placeholder "owl")⟩
  let canvas : Canvas Float :=
    { Canvas.blank with
      scene := ⟨[owl], 1⟩
      selection := .only ⟨"owl"⟩ }
  let workspace : Workspace Float :=
    { settings := Settings.standard
      store := .ofCanvas canvas
      queue := JobQueue.ofLimit 3
      autosaver := Autosaver.ofSettings (Settings.standard : Settings Float) 0 1
      followers := []
      held := true }
  { ofServices (.ofMemory (Memory.empty 0)) with
    workspaces := [workspace]
    current := some 0
    calls := [(2, .submit 0 "paint it again" .checking)]
    numbered := 3 }

theorem prompt_for_waiting_owl_rejected :
    let behind := (owlDesk.stepSubmit 2 0 "paint it again" .checking).2
    Submitting 2 0 "paint it again" [(owlDesk, behind)] behind ∧
      (∃ e, behind.results.lookup 2 = some (.submitted (.error e)) ∧ e.isInput = true) ∧
      owlDesk.Untouched behind := by
  intro behind
  have began : Submitting 2 0 "paint it again" [] owlDesk := .start rfl rfl (Nat.lt_succ_self 0)
  have run : Submitting 2 0 "paint it again" [(owlDesk, behind)] behind := .step began rfl
  obtain ⟨untouched, rejected⟩ := rejected_prompt_changes_nothing run
  have plans : ∀ step ∈ [(owlDesk, behind)], PlansFailElsewhere step.1 := by
    intro step mem request e failed
    obtain rfl := List.mem_singleton.mp mem
    cases failed
  have barred : Barred 0 "paint it again" owlDesk := ⟨_, rfl, .selected rfl (by decide)⟩
  obtain ⟨e, ended, input⟩ := (rejected plans (owlDesk, behind) rfl).mpr barred
  refine ⟨run, ⟨e, ended, input⟩, untouched (fun jobs accepted => ?_) _ List.mem_cons_self⟩
  cases ended.symm.trans accepted

end Sample

end PromptCanvas.Session

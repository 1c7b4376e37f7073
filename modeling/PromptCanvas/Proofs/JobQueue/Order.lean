import Mathlib.Data.List.Nodup
import PromptCanvas.Proofs.JobQueue.Accounting

set_option autoImplicit false
set_option relaxedAutoImplicit false

namespace PromptCanvas.Workshop

variable {α : Type} [Scalar α] {limit : Nat} {w w' : Workshop}

def Precedes (jobs : List Job) (earlier later : Job) : Prop := [earlier, later].Sublist jobs

section Precedes

variable {jobs more : List Job} {earlier later : Job}

private theorem Precedes.mem_left (h : Precedes jobs earlier later) : earlier ∈ jobs :=
  h.subset (by simp)

private theorem Precedes.mem_right (h : Precedes jobs earlier later) : later ∈ jobs :=
  h.subset (by simp)

private theorem Precedes.append (h : Precedes jobs earlier later) (more : List Job) :
    Precedes (jobs ++ more) earlier later :=
  List.Sublist.trans h (List.sublist_append_left jobs more)

private theorem precedes_append_singleton (mem : earlier ∈ jobs) :
    Precedes (jobs ++ [later]) earlier later :=
  (List.singleton_sublist.mpr mem).append (.refl [later])

private theorem precedes_of_mem_after {before after : List Job} (mem : later ∈ after) :
    Precedes (before ++ earlier :: after) earlier later :=
  ((List.singleton_sublist.mpr mem).cons_cons earlier).trans (List.sublist_append_right _ _)

private theorem precedes_cons_iff {first : Job} : Precedes (first :: jobs) earlier later ↔
    Precedes jobs earlier later ∨ first = earlier ∧ later ∈ jobs := by
  simp only [Precedes, List.sublist_cons_iff]
  constructor
  · rintro (h | ⟨rest, eq, h⟩)
    · exact .inl h
    · obtain ⟨rfl, rfl⟩ := List.cons.inj eq
      exact .inr ⟨rfl, List.singleton_sublist.mp h⟩
  · rintro (h | ⟨rfl, mem⟩)
    · exact .inl h
    · exact .inr ⟨[later], rfl, List.singleton_sublist.mpr mem⟩

private theorem Precedes.asymm (nodup : jobs.Nodup) (h : Precedes jobs earlier later) :
    ¬ Precedes jobs later earlier := by
  induction jobs with
  | nil => cases h
  | cons first rest ih =>
    intro reverse
    rw [List.nodup_cons] at nodup
    rcases precedes_cons_iff.mp h with h | ⟨rfl, mem⟩
    · rcases precedes_cons_iff.mp reverse with reverse | ⟨rfl, -⟩
      · exact ih nodup.2 h reverse
      · exact nodup.1 h.mem_right
    · rcases precedes_cons_iff.mp reverse with reverse | ⟨rfl, -⟩
      · exact nodup.1 reverse.mem_right
      · exact nodup.1 mem

private theorem Precedes.of_append (nodup : (jobs ++ more).Nodup)
    (h : Precedes (jobs ++ more) earlier later) (mem : later ∈ jobs) :
    Precedes jobs earlier later := by
  obtain ⟨front, back, eq, sub, rest⟩ := List.sublist_append_iff.mp h
  have apart : later ∉ more := fun also => (List.nodup_append'.mp nodup).2.2 mem also
  rcases List.eq_nil_or_concat back with rfl | ⟨inner, last, rfl⟩
  · rw [List.append_nil] at eq
    subst eq
    exact sub
  · have same : later = last := by
      have ends := congrArg List.getLast? eq
      simpa using ends
    exact absurd (rest.subset (by simp [same])) apart

end Precedes

/-- Jobs that wait or went to work stand in the order of submission as far as it binds them. -/
structure Orderly (w : Workshop) : Prop where
  pending_sublist : w.queue.pending.Sublist w.accepted
  grouped : ∀ seed : Option Key,
    w.accepted.filter (fun job => job.seed = seed) =
      w.started.filter (fun job => job.seed = seed) ++
        w.queue.pending.filter fun job => job.seed = seed
  patient : ∀ earlier later, Precedes w.accepted earlier later → earlier.seed = none →
    later ∈ w.started → Precedes w.started earlier later

private theorem orderly_ofLimit (limit : Nat) : Orderly (ofLimit limit) :=
  ⟨.refl _, fun _ => rfl, fun _ _ _ _ mem => absurd mem (List.not_mem_nil)⟩

private theorem held_of_precedes {job earlier : Job} {q : JobQueue} (exclusive : Exclusive limit w)
    (accounted : Accounted w) (orderly : Orderly w)
    (next : w.queue.startNext? = some (job, q)) (first : Precedes w.accepted earlier job)
    (waiting : earlier ∉ w.started) :
    ∃ key, earlier.seed = some key ∧ ∃ holder ∈ w.working, holder.seed = some key := by
  obtain ⟨before, after, -, pending, -, held, -⟩ := JobQueue.startNext?_eq_some next
  have mem : earlier ∈ w.queue.pending := by
    have known := accounted.accepted_perm.symm.subset first.mem_left
    exact (List.mem_append.mp known).resolve_right waiting
  have skipped : earlier ∈ before := by
    rw [pending] at mem
    rcases List.mem_append.mp mem with mem | mem
    · exact mem
    -- Standing behind the job in line would contradict the order of submission.
    · have nodup := accounted.accepted_nodup
      rcases List.mem_cons.mp mem with rfl | mem
      · exact absurd first (first.asymm nodup)
      · have behind : Precedes (before ++ job :: after) job earlier := precedes_of_mem_after mem
        rw [← pending] at behind
        exact absurd (behind.trans orderly.pending_sublist) (first.asymm nodup)
  obtain ⟨key, busy, seed⟩ := JobQueue.isFree_eq_false_iff.mp (held earlier skipped)
  obtain ⟨worker, atWork, holds⟩ := mem_seeds.mp ((exclusive.mem_busy key).mp busy)
  exact ⟨key, seed, worker.job, List.mem_map_of_mem atWork, holds⟩

namespace Orderly

private theorem push (h : Orderly w) (accounted : Accounted w) {jobs : List Job}
    (fresh : ((w.accepted ++ jobs).map Job.number).Nodup) : Orderly (w.push jobs) := by
  refine ⟨h.pending_sublist.append (.refl jobs), ?_, ?_⟩
  · intro seed
    simp only [Workshop.push, JobQueue.push, List.filter_append, h.grouped seed,
      List.append_assoc]
  · intro earlier later order seedless mem
    have known : later ∈ w.accepted :=
      accounted.accepted_perm.subset (List.mem_append_right _ mem)
    exact h.patient earlier later (order.of_append (fresh.of_map _) known) seedless mem

private theorem begin {job : Job} {q : JobQueue} (h : Orderly w) (exclusive : Exclusive limit w)
    (accounted : Accounted w) (next : w.queue.startNext? = some (job, q)) :
    Orderly (w.begin q [job]) := by
  obtain ⟨before, after, -, pending, free, held, same⟩ := JobQueue.startNext?_eq_some next
  refine ⟨?_, ?_, ?_⟩
  · have fewer : (before ++ after).Sublist w.queue.pending := by
      rw [pending]
      exact (List.sublist_cons_self job after).append_left before
    rw [same]
    exact fewer.trans h.pending_sublist
  · intro seed
    have grouped := h.grouped seed
    rw [pending] at grouped
    by_cases own : job.seed = seed
    · -- No job of the same seed is passed over, since it would be free as well.
      have none : before.filter (fun job => job.seed = seed) = [] := by
        refine List.filter_eq_nil_iff.mpr fun skipped mem sameSeed => ?_
        have alike : skipped.seed = job.seed := by simpa [own] using sameSeed
        have stuck := held skipped mem
        rw [JobQueue.isFree_congr alike, free] at stuck
        exact Bool.noConfusion stuck
      simpa [Workshop.begin, JobQueue.startJob, same, none, own] using grouped
    · simpa [Workshop.begin, JobQueue.startJob, same, own] using grouped
  · intro earlier later order seedless mem
    rcases List.mem_append.mp mem with mem | mem
    · exact (h.patient earlier later order seedless mem).append [job]
    · obtain rfl := List.mem_singleton.mp mem
      by_cases begun : earlier ∈ w.started
      · exact precedes_append_singleton begun
      · obtain ⟨key, seed, -⟩ := held_of_precedes exclusive accounted h next order begun
        exact absurd (seedless.symm.trans seed) (Option.some_ne_none key).symm

end Orderly

structure Regular (limit : Nat) (w : Workshop) : Prop where
  exclusive : Exclusive limit w
  accounted : Accounted w
  orderly : Orderly w

namespace Regular

private theorem begin {jobs : List Job} {q : JobQueue} (h : Regular limit w)
    (chain : w.queue.Starts jobs q) : Regular limit (w.begin q jobs) :=
  begin_induction chain
    (fun h next => ⟨h.exclusive.begin next, h.accounted.begin next,
      h.orderly.begin h.exclusive h.accounted next⟩) h

private theorem drain (h : Regular limit w) : Regular limit w.drain := by
  have begun := (h.begin (JobQueue.starts_drain w.queue)).orderly
  exact ⟨h.exclusive.drain, h.accounted.drain, begun.pending_sublist, begun.grouped, begun.patient⟩

private theorem step (h : Regular limit w) (next : Step α w w') : Regular limit w' := by
  refine ⟨h.exclusive.step next, h.accounted.step next, ?_⟩
  have orderly := h.orderly
  cases next with
  | push jobs fresh => exact orderly.push h.accounted fresh
  | drain => exact h.drain.orderly
  | place => exact ⟨orderly.pending_sublist, orderly.grouped, orderly.patient⟩
  | vacate => exact ⟨orderly.pending_sublist, orderly.grouped, orderly.patient⟩
  | deliver => exact ⟨orderly.pending_sublist, orderly.grouped, orderly.patient⟩

end Regular

private theorem Reachable.regular (h : Reachable α limit w) : Regular limit w := by
  induction h with
  | start => exact ⟨exclusive_ofLimit limit, accounted_ofLimit limit, orderly_ofLimit limit⟩
  | step _ next ih => exact ih.step next

/-- Whenever a drain starts a job, each job that was submitted earlier and still waits has its seed
held at that moment.  So a job without a seed is never overtaken, and jobs without a seed, like the
jobs of one seed, start in the order of their submission. -/
theorem overtaken_only_while_held (h : Reachable α limit w) :
    (∀ before job after, w.queue.drain.2 = before ++ job :: after →
      ∀ earlier, Precedes w.accepted earlier job → earlier ∉ w.started ++ before →
        ∃ key, earlier.seed = some key ∧
          ∃ holder ∈ w.working ++ before, holder.seed = some key) ∧
    (∀ earlier later, Precedes w.accepted earlier later → earlier.seed = none →
      later ∈ w.started → Precedes w.started earlier later) ∧
    (∀ seed : Option Key, w.started.filter (fun job => job.seed = seed) <+:
      w.accepted.filter fun job => job.seed = seed) := by
  have regular := h.regular
  refine ⟨?_, regular.orderly.patient, fun seed => ⟨_, (regular.orderly.grouped seed).symm⟩⟩
  intro before job after starts earlier first waiting
  have chain := JobQueue.starts_drain w.queue
  rw [starts] at chain
  obtain ⟨q₁, q₂, front, next, -⟩ := chain.split
  have moment := regular.begin front
  obtain ⟨key, seed, holder, atWork, holds⟩ := held_of_precedes moment.exclusive
    moment.accounted moment.orderly next first waiting
  refine ⟨key, seed, holder, ?_, holds⟩
  simpa [working, Workshop.begin, Worker.ofJob, Function.comp_def] using atWork

theorem owl_waits_for_seed :
    Reachable Float 2 threeInLine ∧
    (threeInLine.queue.drain.2.map Job.number = [0, 2] ∧
      (∃ key, (threeJobs.map Job.seed)[1]? = some (some key) ∧
        ∃ holder ∈ threeInLine.working ++ threeJobs.take 1, holder.seed = some key)) := by
  have reached := reachable_threeInLine Float
  have law := (overtaken_only_while_held reached).1 (threeJobs.take 1) threeJobs[2] [] rfl
    threeJobs[1] (by simp [Precedes, threeInLine, Workshop.push, ofLimit, threeJobs]) (by decide)
  exact ⟨reached, rfl, law.imp fun key held => ⟨congrArg some held.1, held.2⟩⟩

end PromptCanvas.Workshop

import Mathlib.Data.List.Perm.Basic
import PromptCanvas.Proofs.JobQueue.Exclusion

set_option autoImplicit false
set_option relaxedAutoImplicit false

namespace PromptCanvas.Workshop

variable {α : Type} [Scalar α] {limit : Nat} {w w' : Workshop}

structure Accounted (w : Workshop) : Prop where
  numbers_nodup : (w.accepted.map Job.number).Nodup
  accepted_perm : (w.queue.pending ++ w.started).Perm w.accepted
  started_perm : (w.working ++ w.released).Perm w.started

def Rested (w : Workshop) : Prop := w.owed = 0 → w.queue.Settled

/-- The outcomes of a job that has left, on their way or delivered. -/
def outcomes (w : Workshop) (job : Job) : List JobOutcome :=
  ((w.undelivered ++ w.delivered).filter fun parcel => parcel.1 = job).map Prod.snd

theorem accounted_ofLimit (limit : Nat) : Accounted (ofLimit limit) :=
  ⟨List.nodup_nil, .nil, .nil⟩

namespace Accounted

private theorem push (h : Accounted w) {jobs : List Job}
    (fresh : ((w.accepted ++ jobs).map Job.number).Nodup) : Accounted (w.push jobs) := by
  refine ⟨fresh, ?_, h.started_perm⟩
  have counts := List.perm_iff_count.mp h.accepted_perm
  refine List.perm_iff_count.mpr fun job => ?_
  have count := counts job
  simp only [Workshop.push, JobQueue.push, List.count_append] at count ⊢
  omega

theorem begin {job : Job} {q : JobQueue} (h : Accounted w)
    (next : w.queue.startNext? = some (job, q)) : Accounted (w.begin q [job]) := by
  obtain ⟨before, after, -, pending, -, -, rfl⟩ := JobQueue.startNext?_eq_some next
  refine ⟨h.numbers_nodup, List.perm_iff_count.mpr fun other => ?_,
    List.perm_iff_count.mpr fun other => ?_⟩
  · have count := List.perm_iff_count.mp h.accepted_perm other
    simp only [pending, Workshop.begin, JobQueue.startJob, List.count_append, List.count_cons,
      List.count_nil] at count ⊢
    omega
  · have count := List.perm_iff_count.mp h.started_perm other
    simp only [working, released, Workshop.begin, List.map_append, List.map_cons, List.map_nil,
      Worker.ofJob, List.count_append] at count ⊢
    omega

theorem drain (h : Accounted w) : Accounted w.drain := by
  have begun := begin_induction (JobQueue.starts_drain w.queue) begin h
  exact ⟨begun.numbers_nodup, begun.accepted_perm, begun.started_perm⟩

private theorem place {before after : List Worker} {worker : Worker} (h : Accounted w)
    (split : w.workers = before ++ worker :: after) (key : Key) :
    Accounted (w.place before worker after key) := by
  have same : (w.place before worker after key).working = w.working := by
    simp [working, Workshop.place, split]
  refine ⟨h.numbers_nodup, h.accepted_perm, ?_⟩
  rw [same]
  exact h.started_perm

private theorem vacate {before after : List Worker} {worker : Worker} (h : Accounted w)
    (split : w.workers = before ++ worker :: after) (outcome : JobOutcome) :
    Accounted (w.vacate before worker after outcome) := by
  refine ⟨h.numbers_nodup, h.accepted_perm, List.perm_iff_count.mpr fun other => ?_⟩
  have count := List.perm_iff_count.mp h.started_perm other
  simp only [working, released, split, Workshop.vacate, List.map_append, List.map_cons,
    List.map_nil, List.count_append, List.count_cons, List.count_nil] at count ⊢
  omega

private theorem deliver {before after : List (Job × JobOutcome)} {parcel : Job × JobOutcome}
    (h : Accounted w) (split : w.undelivered = before ++ parcel :: after) :
    Accounted (w.deliver before parcel after) := by
  refine ⟨h.numbers_nodup, h.accepted_perm, List.perm_iff_count.mpr fun other => ?_⟩
  have count := List.perm_iff_count.mp h.started_perm other
  simp only [working, released, split, Workshop.deliver, List.map_append, List.map_cons,
    List.map_nil, List.count_append, List.count_cons, List.count_nil] at count ⊢
  omega

theorem step (h : Accounted w) (next : Step α w w') : Accounted w' := by
  cases next with
  | push jobs fresh => exact h.push fresh
  | drain => exact h.drain
  | place _ split _ _ => exact h.place split _
  | vacate outcome split => exact h.vacate split outcome
  | deliver split => exact h.deliver split

theorem accepted_nodup (h : Accounted w) : w.accepted.Nodup := h.numbers_nodup.of_map _

private theorem places (h : Accounted w) {job : Job} (mem : job ∈ w.accepted) :
    w.queue.pending.count job + w.working.count job + w.released.count job = 1 := by
  have once := List.count_eq_one_of_mem h.accepted_nodup mem
  have waiting := List.perm_iff_count.mp h.accepted_perm job
  have begun := List.perm_iff_count.mp h.started_perm job
  simp only [List.count_append] at waiting begun
  omega

private theorem started_nodup (h : Accounted w) : w.started.Nodup :=
  (h.accepted_perm.nodup_iff.mpr h.accepted_nodup).of_append_right

private theorem released_nodup (h : Accounted w) : w.released.Nodup :=
  (h.started_perm.nodup_iff.mpr h.started_nodup).of_append_right

end Accounted

theorem Reachable.accounted (h : Reachable α limit w) : Accounted w := by
  induction h with
  | start => exact accounted_ofLimit limit
  | step _ next ih => exact ih.step next

private theorem settled_drain (h : Exclusive limit w) : w.drain.queue.Settled :=
  JobQueue.settled_of_startNext?_eq_none h.drain.running_le (JobQueue.startNext?_drain w.queue)

private theorem Reachable.rested (h : Reachable α limit w) : Rested w := by
  induction h with
  | start => exact fun _ => .inr (by simp [ofLimit, JobQueue.ofLimit])
  | step reached next ih =>
    cases next with
    | push => exact fun none => absurd none (Nat.succ_ne_zero _)
    | drain => exact fun _ => settled_drain reached.exclusive
    | place => exact ih
    | vacate => exact fun none => absurd none (Nat.succ_ne_zero _)
    | deliver => exact ih

private theorem Exclusive.running_pos (h : Exclusive limit w) (settled : w.queue.Settled)
    (waiting : w.queue.pending ≠ []) : 1 ≤ w.queue.running := by
  rcases settled with full | held
  · have := h.limit_eq
    omega
  · obtain ⟨job, mem⟩ := List.exists_mem_of_ne_nil _ waiting
    obtain ⟨key, busy, -⟩ := held job mem
    obtain ⟨worker, atWork, -⟩ := mem_seeds.mp ((h.mem_busy key).mp busy)
    rw [h.running_eq]
    exact List.length_pos_of_mem atWork

private theorem exists_unique_parcel {parcels : List (Job × JobOutcome)} {job : Job}
    (nodup : (parcels.map Prod.fst).Nodup) (mem : job ∈ parcels.map Prod.fst) :
    ∃ outcome, (parcels.filter fun parcel => parcel.1 = job) = [(job, outcome)] := by
  induction parcels with
  | nil => simp at mem
  | cons parcel rest ih =>
    obtain ⟨owner, outcome⟩ := parcel
    simp only [List.map_cons, List.nodup_cons] at nodup
    by_cases own : owner = job
    · subst own
      have others : (rest.filter fun parcel => parcel.1 = owner) = [] := by
        refine List.filter_eq_nil_iff.mpr fun parcel later same => nodup.1 ?_
        exact List.mem_map.mpr ⟨parcel, later, by simpa using same⟩
      exact ⟨outcome, by simp [others]⟩
    · have later : job ∈ rest.map Prod.fst := by simpa [Ne.symm own] using mem
      obtain ⟨found, same⟩ := ih nodup.2 later
      exact ⟨found, by simp [own, same]⟩

private theorem Accounted.outcomes_eq (h : Accounted w) {job : Job} (mem : job ∈ w.released) :
    ∃ outcome, w.outcomes job = [outcome] := by
  obtain ⟨outcome, same⟩ := exists_unique_parcel h.released_nodup mem
  exact ⟨outcome, by simp [outcomes, same]⟩

private theorem outcomes_eq_nil {job : Job} (absent : job ∉ w.released) : w.outcomes job = [] := by
  refine List.map_eq_nil_iff.mpr (List.filter_eq_nil_iff.mpr fun parcel mem own => absent ?_)
  exact List.mem_map.mpr ⟨parcel, mem, by simpa using own⟩

/-- After every drain, and whenever no drain is owed, jobs wait only for a place or for their
seed, and some job is at work while any waits.  At every moment each accepted job waits, is at
work or has left; it starts at most once, and has one outcome once it has left. -/
theorem no_job_stranded_or_doubled (h : Reachable α limit w) :
    ((w.drain.queue.running = max limit 1 ∨
        ∀ job ∈ w.drain.queue.pending, ∃ key ∈ w.drain.queue.busy, job.seed = some key) ∧
      (w.drain.queue.pending ≠ [] → 1 ≤ w.drain.queue.running)) ∧
    (w.owed = 0 →
      (w.queue.running = max limit 1 ∨
        ∀ job ∈ w.queue.pending, ∃ key ∈ w.queue.busy, job.seed = some key) ∧
      (w.queue.pending ≠ [] → 1 ≤ w.queue.running)) ∧
    (w.queue.pending ++ w.working ++ w.released).Perm w.accepted ∧
    (∀ job ∈ w.accepted,
      w.queue.pending.count job + w.working.count job + w.released.count job = 1) ∧
    w.started.Nodup ∧
    (∀ job ∈ w.released, ∃ outcome, w.outcomes job = [outcome]) ∧
    (∀ job, job ∉ w.released → w.outcomes job = []) ∧
    (w.delivered.map Prod.fst).Nodup := by
  have exclusive := h.exclusive
  have accounted := h.accounted
  have settled := settled_drain exclusive
  refine ⟨⟨?_, exclusive.drain.running_pos settled⟩, ?_, ?_, fun _ => accounted.places,
    accounted.started_nodup, fun _ => accounted.outcomes_eq, fun _ => outcomes_eq_nil, ?_⟩
  · rw [← exclusive.drain.limit_eq]
    exact settled
  · intro none
    have rested := h.rested none
    refine ⟨?_, exclusive.running_pos rested⟩
    rw [← exclusive.limit_eq]
    exact rested
  · rw [List.append_assoc]
    exact (accounted.started_perm.append_left _).trans accounted.accepted_perm
  · have nodup := accounted.released_nodup
    rw [released, List.map_append] at nodup
    exact nodup.of_append_right

theorem owl_not_stranded :
    Reachable Float 2 threeInLine.drain ∧
    threeInLine.drain.owed = 0 ∧ threeInLine.drain.queue.pending.map Job.number = [1] ∧
    1 ≤ threeInLine.drain.queue.running ∧
    (threeInLine.drain.queue.pending ++ threeInLine.drain.working ++
      threeInLine.drain.released).Perm threeJobs := by
  have reached := reachable_threeInLine_drain Float
  have law := no_job_stranded_or_doubled reached
  exact ⟨reached, rfl, rfl, (law.2.1 rfl).2 (by decide), law.2.2.1⟩

end PromptCanvas.Workshop

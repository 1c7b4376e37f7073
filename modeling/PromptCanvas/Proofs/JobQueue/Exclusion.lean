import Mathlib.Data.List.Nodup
import PromptCanvas.Proofs.JobQueue.Workshop

set_option autoImplicit false
set_option relaxedAutoImplicit false

namespace PromptCanvas.Workshop

variable {α : Type} [Scalar α] {limit : Nat} {w w' : Workshop}

structure Exclusive (limit : Nat) (w : Workshop) : Prop where
  limit_eq : w.queue.limit = max limit 1
  running_le : w.queue.running ≤ w.queue.limit
  running_eq : w.queue.running = w.workers.length
  mem_busy : ∀ key, key ∈ w.queue.busy ↔ key ∈ w.seeds
  seeds_nodup : w.seeds.Nodup

theorem mem_seeds {key : Key} :
    key ∈ w.seeds ↔ ∃ worker ∈ w.workers, worker.job.seed = some key := by
  simp [seeds, working]

private theorem seeds_begin (q : JobQueue) (job : Job) :
    (w.begin q [job]).seeds = w.seeds ++ job.seed.toList := by
  cases seed : job.seed <;> simp [seeds, working, begin, Worker.ofJob, seed]

private theorem seeds_split {before after : List Worker} {worker : Worker}
    (split : w.workers = before ++ worker :: after) :
    w.seeds = (before.map Worker.job).filterMap Job.seed ++
      (worker.job.seed.toList ++ (after.map Worker.job).filterMap Job.seed) := by
  cases seed : worker.job.seed <;> simp [seeds, working, split, seed]

theorem exclusive_ofLimit (limit : Nat) : Exclusive limit (ofLimit limit) where
  limit_eq := rfl
  running_le := Nat.zero_le _
  running_eq := rfl
  mem_busy _ := by simp [ofLimit, JobQueue.ofLimit, seeds, working]
  seeds_nodup := List.nodup_nil

namespace Exclusive

private theorem push (h : Exclusive limit w) (jobs : List Job) : Exclusive limit (w.push jobs) :=
  ⟨h.limit_eq, h.running_le, h.running_eq, h.mem_busy, h.seeds_nodup⟩

theorem begin {job : Job} {q : JobQueue} (h : Exclusive limit w)
    (next : w.queue.startNext? = some (job, q)) : Exclusive limit (w.begin q [job]) := by
  obtain ⟨before, after, room, -, free, -, rfl⟩ := JobQueue.startNext?_eq_some next
  have unheld : ∀ key ∈ job.seed, key ∉ w.seeds := by
    intro key seed held
    have busy := (h.mem_busy key).mpr held
    have taken : JobQueue.isFree w.queue.busy job = false :=
      JobQueue.isFree_eq_false_iff.mpr ⟨key, busy, seed⟩
    simp [taken] at free
  refine ⟨h.limit_eq, room, ?_, ?_, ?_⟩
  · simp [Workshop.begin, JobQueue.startJob, h.running_eq]
  · intro key
    rw [seeds_begin]
    simp [Workshop.begin, JobQueue.startJob, h.mem_busy, or_comm]
  · rw [seeds_begin, List.nodup_append']
    refine ⟨h.seeds_nodup, by cases job.seed <;> simp, ?_⟩
    intro key held seed
    exact unheld key (by simpa using seed) held

theorem drain (h : Exclusive limit w) : Exclusive limit w.drain := by
  have begun := begin_induction (JobQueue.starts_drain w.queue) begin h
  exact ⟨begun.limit_eq, begun.running_le, begun.running_eq, begun.mem_busy, begun.seeds_nodup⟩

private theorem place {before after : List Worker} {worker : Worker} (h : Exclusive limit w)
    (split : w.workers = before ++ worker :: after) (key : Key) :
    Exclusive limit (w.place before worker after key) := by
  have same : (w.place before worker after key).seeds = w.seeds := by
    simp [seeds, working, Workshop.place, split]
  refine ⟨h.limit_eq, h.running_le, ?_, ?_, ?_⟩
  · simp [Workshop.place, h.running_eq, split]
  · rw [same]
    exact h.mem_busy
  · rw [same]
    exact h.seeds_nodup

theorem vacate {before after : List Worker} {worker : Worker} (h : Exclusive limit w)
    (split : w.workers = before ++ worker :: after) (outcome : JobOutcome) :
    Exclusive limit (w.vacate before worker after outcome) := by
  have seeds := seeds_split split
  have fewer : (w.vacate before worker after outcome).seeds =
      (before.map Worker.job).filterMap Job.seed ++ (after.map Worker.job).filterMap Job.seed := by
    simp [Workshop.seeds, working, Workshop.vacate]
  have length : w.workers.length = (before ++ after).length + 1 := by
    simp [split]
    omega
  have nodup := h.seeds_nodup
  rw [seeds] at nodup
  refine ⟨h.limit_eq, ?_, ?_, ?_, ?_⟩
  · exact Nat.le_trans (Nat.sub_le _ _) h.running_le
  · simp only [Workshop.vacate, JobQueue.vacate, h.running_eq, length, Nat.add_sub_cancel]
  · intro key
    have own : key ∈ worker.job.seed.toList ↔ worker.job.seed = some key := by simp
    rw [fewer]
    simp only [Workshop.vacate, JobQueue.vacate, List.mem_filter, h.mem_busy, seeds,
      List.mem_append, own, decide_eq_true_eq]
    constructor
    · rintro ⟨mem | mem | mem, other⟩
      · exact .inl mem
      · exact absurd mem other
      · exact .inr mem
    · intro mem
      have apart : worker.job.seed ≠ some key := by
        intro seed
        have twice := List.nodup_append'.mp nodup
        rcases mem with mem | mem
        · exact twice.2.2 mem (List.mem_append_left _ (own.mpr seed))
        · exact (List.nodup_append'.mp twice.2.1).2.2 (own.mpr seed) mem
      exact ⟨mem.imp_right .inr, apart⟩
  · rw [fewer]
    exact nodup.sublist ((List.sublist_append_right _ _).append_left _)

private theorem deliver (h : Exclusive limit w) (before : List (Job × JobOutcome))
    (parcel : Job × JobOutcome) (after : List (Job × JobOutcome)) :
    Exclusive limit (w.deliver before parcel after) :=
  ⟨h.limit_eq, h.running_le, h.running_eq, h.mem_busy, h.seeds_nodup⟩

theorem step (h : Exclusive limit w) (next : Step α w w') : Exclusive limit w' := by
  cases next with
  | push jobs _ => exact h.push jobs
  | drain => exact h.drain
  | place _ split _ _ => exact h.place split _
  | vacate outcome split => exact h.vacate split outcome
  | deliver => exact h.deliver _ _ _

end Exclusive

theorem Reachable.exclusive (h : Reachable α limit w) : Exclusive limit w := by
  induction h with
  | start => exact exclusive_ofLimit limit
  | step _ next ih => exact ih.step next

end PromptCanvas.Workshop

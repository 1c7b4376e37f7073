import PromptCanvas.Job

set_option autoImplicit false
set_option relaxedAutoImplicit false

namespace PromptCanvas.JobQueue

variable {q q' : JobQueue} {busy : List Key} {job : Job} {jobs others started : List Job}

theorem isFree_eq_false_iff : isFree busy job = false ↔ ∃ key ∈ busy, job.seed = some key := by
  cases seed : job.seed <;> simp [isFree, seed]

theorem isFree_congr {other : Job} (same : other.seed = job.seed) :
    isFree busy other = isFree busy job := by
  simp [isFree, same]

private theorem takeFree?_eq_some (taken : takeFree? busy jobs = some (job, others)) :
    ∃ before after, jobs = before ++ job :: after ∧ others = before ++ after ∧
      isFree busy job = true ∧ ∀ skipped ∈ before, isFree busy skipped = false := by
  induction jobs generalizing job others with
  | nil => simp [takeFree?] at taken
  | cons first rest ih =>
    rw [takeFree?] at taken
    split at taken
    · next free =>
      obtain ⟨rfl, rfl⟩ : first = job ∧ rest = others := by simpa using taken
      exact ⟨[], rest, rfl, rfl, free, by simp⟩
    · next held =>
      obtain ⟨⟨found, left⟩, takenRest, same⟩ := Option.map_eq_some_iff.mp taken
      obtain ⟨rfl, rfl⟩ : found = job ∧ first :: left = others := by simpa using same
      obtain ⟨before, after, rfl, rfl, free, skipped⟩ := ih takenRest
      refine ⟨first :: before, after, rfl, rfl, free, ?_⟩
      intro other mem
      rcases List.mem_cons.mp mem with rfl | mem
      · simpa using held
      · exact skipped other mem

private theorem takeFree?_eq_none_iff :
    takeFree? busy jobs = none ↔ ∀ job ∈ jobs, isFree busy job = false := by
  induction jobs with
  | nil => simp [takeFree?]
  | cons first rest ih =>
    rw [takeFree?]
    cases free : isFree busy first <;> simp [free, ih]

/-- All that a single start does: there is room, the job is the first free one, and it takes its
seed along. -/
theorem startNext?_eq_some (next : q.startNext? = some (job, q')) :
    ∃ before after, q.running < q.limit ∧ q.pending = before ++ job :: after ∧
      isFree q.busy job = true ∧ (∀ skipped ∈ before, isFree q.busy skipped = false) ∧
      q' = q.startJob job (before ++ after) := by
  rw [startNext?] at next
  split at next
  · next room =>
    obtain ⟨⟨found, left⟩, taken, same⟩ := Option.map_eq_some_iff.mp next
    obtain ⟨rfl, rfl⟩ : found = job ∧ q.startJob found left = q' := by simpa using same
    obtain ⟨before, after, pending, rfl, free, skipped⟩ := takeFree?_eq_some taken
    exact ⟨before, after, room, pending, free, skipped, rfl⟩
  · simp at next

def Settled (q : JobQueue) : Prop :=
  q.running = q.limit ∨ ∀ job ∈ q.pending, ∃ key ∈ q.busy, job.seed = some key

theorem settled_of_startNext?_eq_none (within : q.running ≤ q.limit)
    (none : q.startNext? = none) : q.Settled := by
  rw [startNext?] at none
  split at none
  · have held := takeFree?_eq_none_iff.mp (Option.map_eq_none_iff.mp none)
    exact .inr fun job mem => isFree_eq_false_iff.mp (held job mem)
  · exact .inl (by omega)

inductive Starts : JobQueue → List Job → JobQueue → Prop
  | none (q : JobQueue) : Starts q [] q
  | next {q q₁ q₂ : JobQueue} {job : Job} {started : List Job} :
      q.startNext? = some (job, q₁) → Starts q₁ started q₂ → Starts q (job :: started) q₂

theorem Starts.split {before after : List Job} (chain : Starts q (before ++ job :: after) q') :
    ∃ q₁ q₂, Starts q before q₁ ∧ q₁.startNext? = some (job, q₂) ∧ Starts q₂ after q' := by
  induction before generalizing q with
  | nil =>
    cases chain with
    | next start rest => exact ⟨q, _, .none q, start, rest⟩
  | cons first more ih =>
    cases chain with
    | next start rest =>
      obtain ⟨q₁, q₂, front, here, back⟩ := ih rest
      exact ⟨q₁, q₂, .next start front, here, back⟩

private theorem starts_drainRounds (rounds : Nat) (q : JobQueue) :
    Starts q (drainRounds rounds q).2 (drainRounds rounds q).1 := by
  induction rounds generalizing q with
  | zero => exact .none q
  | succ rounds ih =>
    rw [drainRounds]
    split
    · next job q₁ next => exact .next next (ih q₁)
    · exact .none q

theorem starts_drain (q : JobQueue) : Starts q q.drain.2 q.drain.1 :=
  starts_drainRounds q.pending.length q

private theorem length_pending_of_startNext? (next : q.startNext? = some (job, q')) :
    q'.pending.length + 1 = q.pending.length := by
  obtain ⟨before, after, -, pending, -, -, rfl⟩ := startNext?_eq_some next
  simp [startJob, pending]
  omega

private theorem startNext?_drainRounds (rounds : Nat) (enough : q.pending.length ≤ rounds) :
    (drainRounds rounds q).1.startNext? = none := by
  induction rounds generalizing q with
  | zero =>
    have empty : q.pending = [] := List.length_eq_zero_iff.mp (by omega)
    simp [drainRounds, startNext?, empty, takeFree?]
  | succ rounds ih =>
    rw [drainRounds]
    split
    · next job q₁ next =>
      have shorter := length_pending_of_startNext? next
      exact ih (by omega)
    · next none => exact none

theorem startNext?_drain (q : JobQueue) : q.drain.1.startNext? = none :=
  startNext?_drainRounds q.pending.length (Nat.le_refl _)

end PromptCanvas.JobQueue

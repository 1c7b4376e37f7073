import Mathlib.Data.List.Perm.Subperm
import PromptCanvas.Proofs.JobQueue.Accounting

set_option autoImplicit false
set_option relaxedAutoImplicit false

namespace PromptCanvas

namespace JobStage

variable {α : Type} [Scalar α] {job : Job} {b : Workbench α} {key : Key}

theorem placeNew_eq_ok (placed : (placeNew job b).1 = .ok key) : key = ⟨freshName b.issued⟩ := by
  simp only [placeNew, Workbench.issue] at placed
  split at placed
  · exact (Except.ok.inj placed).symm
  · simp at placed

private theorem placeNew_of_new (new : b.store.scene.contains ⟨freshName b.issued⟩ = false) :
    (placeNew job b).1 = .ok ⟨freshName b.issued⟩ := by
  have inserted : ∀ rect : Rect α,
      b.store.canvas.scene.insert (Element.make ⟨freshName b.issued⟩ (placeholder job) rect) =
        .ok { b.store.canvas.scene with
          elements := b.store.canvas.scene.elements ++
            [Element.make ⟨freshName b.issued⟩ (placeholder job) rect] } :=
    fun _ => if_neg (ne_true_of_eq_false new)
  simp only [placeNew, Workbench.issue, Store.insertPlaced, Canvas.insertPlaced, inserted]
  rfl

private theorem place_eq_ok (placed : (place job b).1 = .ok key) :
    job.seed = some key ∨ key = ⟨freshName b.issued⟩ := by
  rw [place] at placed
  split at placed
  · exact .inr (placeNew_eq_ok placed)
  · next seed eq =>
    split at placed
    · exact .inl (eq.trans (congrArg some (Except.ok.inj placed)))
    · have fresh := placeNew_eq_ok placed
      exact .inr fresh

end JobStage

namespace Workshop

variable {α : Type} [Scalar α] {limit : Nat} {w w' : Workshop}

def newTargets (w : Workshop) : List Key := w.workers.filterMap Worker.minted?

structure Minted (w : Workshop) : Prop where
  subperm : w.newTargets.Subperm w.minted
  fresh : ∀ key ∈ w.minted, ∃ number, key = ⟨freshName number⟩

private theorem minted_ofLimit (limit : Nat) :
    Minted (ofLimit limit) := ⟨.refl _, by simp [ofLimit]⟩

private theorem minted?_eq_none {worker : Worker} (unplaced : worker.target = none) :
    worker.minted? = none := by
  cases seed : worker.job.seed <;> simp [Worker.minted?, unplaced, seed]

namespace Minted

private theorem begin {job : Job} (h : Minted w) (q : JobQueue) : Minted (w.begin q [job]) := by
  have none : (Worker.ofJob job).minted? = none := minted?_eq_none rfl
  have same : (w.begin q [job]).newTargets = w.newTargets := by
    simp [newTargets, Workshop.begin, none]
  exact ⟨by rw [same]; exact h.subperm, h.fresh⟩

private theorem drain (h : Minted w) : Minted w.drain := by
  have begun := begin_induction (P := Minted) (JobQueue.starts_drain w.queue)
    (fun h _ => h.begin _) h
  exact ⟨begun.subperm, begun.fresh⟩

private theorem place {before after : List Worker} {worker : Worker} {key : Key} (h : Minted w)
    (split : w.workers = before ++ worker :: after) (unplaced : worker.target = none)
    (b : Workbench α) (chosen : (JobStage.place worker.job b).1 = .ok key) :
    Minted (w.place before worker after key) := by
  have old : w.newTargets = before.filterMap Worker.minted? ++ after.filterMap Worker.minted? := by
    simp [newTargets, split, minted?_eq_none unplaced]
  by_cases seed : worker.job.seed = some key
  · have none : ({ worker with target := some key } : Worker).minted? = none := by
      simp [Worker.minted?, seed]
    have same : (w.place before worker after key).newTargets = w.newTargets := by
      rw [old]
      simp [newTargets, Workshop.place, none]
    refine ⟨?_, ?_⟩
    · rw [same]
      simpa [Workshop.place, seed] using h.subperm
    · simpa [Workshop.place, seed] using h.fresh
  · have one : (w.place before worker after key).newTargets =
        before.filterMap Worker.minted? ++ key :: after.filterMap Worker.minted? := by
      simp [newTargets, Workshop.place, Worker.minted?, Ne.symm seed]
    have all : (w.place before worker after key).minted = w.minted ++ [key] := by
      simp [Workshop.place, seed]
    refine ⟨?_, ?_⟩
    · rw [one, all, List.perm_middle.subperm_right,
        (List.perm_append_singleton key w.minted).subperm_left, List.subperm_cons, ← old]
      exact h.subperm
    · intro other mem
      rw [all] at mem
      rcases List.mem_append.mp mem with mem | mem
      · exact h.fresh other mem
      · obtain rfl := List.mem_singleton.mp mem
        exact ⟨b.issued, (JobStage.place_eq_ok chosen).resolve_left seed⟩

private theorem vacate {before after : List Worker} {worker : Worker} (h : Minted w)
    (split : w.workers = before ++ worker :: after) (outcome : JobOutcome) :
    Minted (w.vacate before worker after outcome) := by
  refine ⟨?_, h.fresh⟩
  have fewer : (before ++ after).Sublist w.workers := by
    rw [split]
    exact (List.sublist_cons_self worker after).append_left before
  exact (fewer.filterMap _).subperm.trans h.subperm

private theorem step (h : Minted w) (next : Step α w w') : Minted w' := by
  cases next with
  | push => exact ⟨h.subperm, h.fresh⟩
  | drain => exact h.drain
  | place b split unplaced chosen => exact h.place split unplaced b chosen
  | vacate outcome split => exact h.vacate split outcome
  | deliver => exact ⟨h.subperm, h.fresh⟩

end Minted

private theorem Reachable.minted (h : Reachable α limit w) : Minted w := by
  induction h with
  | start => exact minted_ofLimit limit
  | step _ next ih => exact ih.step next

private theorem target_cases {worker : Worker} {key : Key} (chosen : worker.target = some key) :
    worker.job.seed = some key ∨ worker.minted? = some key := by
  by_cases same : worker.target = worker.job.seed
  · exact .inl (same ▸ chosen)
  · exact .inr (by rw [Worker.minted?, if_neg same, chosen])

private theorem nodup_of_subperm {keys known : List Key} (sub : keys.Subperm known)
    (nodup : known.Nodup) : keys.Nodup := by
  obtain ⟨same, perm, sublist⟩ := sub
  exact perm.nodup_iff.mp (nodup.sublist sublist)

private theorem targets_nodup (exclusive : Exclusive limit w) (accounted : Accounted w)
    (minted : Minted w) (new : w.NewNames) : w.targets.Nodup := by
  have seeds : w.workers.Pairwise fun a b => ∀ x, a.job.seed = some x →
      ∀ y, b.job.seed = some y → x ≠ y := by
    have nodup := exclusive.seeds_nodup
    rw [Workshop.seeds, working, List.filterMap_map] at nodup
    exact List.pairwise_filterMap.mp nodup
  have placed : w.workers.Pairwise fun a b => ∀ x, a.minted? = some x →
      ∀ y, b.minted? = some y → x ≠ y :=
    List.pairwise_filterMap.mp (nodup_of_subperm minted.subperm new.1)
  have apart : ∀ a ∈ w.workers, ∀ b ∈ w.workers, ∀ key, a.minted? = some key →
      b.job.seed ≠ some key := by
    intro a memA b memB key mint
    have known : key ∈ w.minted :=
      minted.subperm.subset (List.mem_filterMap.mpr ⟨a, memA, mint⟩)
    have started : b.job ∈ w.started :=
      accounted.started_perm.subset (List.mem_append_left _ (List.mem_map_of_mem memB))
    exact new.2 key known b.job (accounted.accepted_perm.subset (List.mem_append_right _ started))
  refine List.pairwise_filterMap.mpr ((seeds.and placed).imp_of_mem ?_)
  rintro a b memA memB ⟨seeds, placed⟩ x chosenA y chosenB rfl
  rcases target_cases chosenA with seedA | newA <;> rcases target_cases chosenB with seedB | newB
  · exact seeds x seedA x seedB rfl
  · exact apart b memB a memA x newB seedA
  · exact apart a memA b memB x newA seedB
  · exact placed x newA x newB rfl

/-- No more jobs are at work than allowed; the queue knows their number and their seeds; no two
have the same seed, so that a leaving job frees no seed of another; and if new names are new, no
two work on the same element. -/
theorem work_is_exclusive (h : Reachable α limit w) :
    w.queue.running ≤ max limit 1 ∧
    w.queue.running = w.workers.length ∧
    (w.working ++ w.released).Perm w.started ∧
    (∀ key, key ∈ w.queue.busy ↔ ∃ job ∈ w.working, job.seed = some key) ∧
    w.seeds.Nodup ∧
    (∀ before worker after, w.workers = before ++ worker :: after →
      ∀ other ∈ before ++ after, ∀ key, other.job.seed = some key →
        key ∈ (w.queue.vacate worker.job).busy) ∧
    (∀ worker ∈ w.workers, ∀ key, worker.target = some key →
      worker.job.seed = some key ∨ ∃ number, key = ⟨freshName number⟩) ∧
    (w.NewNames → w.targets.Nodup) := by
  have exclusive := h.exclusive
  have accounted := h.accounted
  have minted := h.minted
  refine ⟨?_, exclusive.running_eq, accounted.started_perm, ?_, exclusive.seeds_nodup, ?_, ?_,
    targets_nodup exclusive accounted minted⟩
  · rw [← exclusive.limit_eq]
    exact exclusive.running_le
  · intro key
    rw [exclusive.mem_busy]
    simp [Workshop.seeds]
  · intro before worker after split other mem key seed
    have left := exclusive.vacate split ⟨worker.target, .done, worker.job.size⟩
    exact (left.mem_busy key).mpr (mem_seeds.mpr ⟨other, mem, seed⟩)
  · intro worker mem key chosen
    refine (target_cases chosen).imp_right fun mint => minted.fresh key ?_
    exact minted.subperm.subset (List.mem_filterMap.mpr ⟨worker, mem, mint⟩)

def seedBench : Workbench Float :=
  let seed : Element Float :=
    ⟨⟨"seed"⟩, ⟨0.0, 0.0, 64.0, 64.0⟩, none, .generator ⟨"fox", none, none, false, false⟩⟩
  ⟨0, .ofCanvas { Canvas.blank with scene := ⟨[seed], 1⟩ }, Metrics.none, 0⟩

def twoAtWork : Workshop := threeInLine.drain

/-- The first works on the seed, the other on an element of its own. -/
def twoPlaced : Workshop :=
  let fox : Job := ⟨0, "fox", "fox", [], some ⟨"seed"⟩, Size.standard⟩
  let elk : Job := ⟨2, "elk", "elk", [], none, Size.standard⟩
  (twoAtWork.place [] (.ofJob fox) [.ofJob elk] ⟨"seed"⟩).place [⟨fox, some ⟨"seed"⟩⟩] (.ofJob elk)
    [] ⟨freshName 0⟩

private theorem reachable_twoPlaced : Reachable Float 2 twoPlaced := by
  have begun : Reachable Float 2 twoAtWork := reachable_threeInLine_drain Float
  have first := Reachable.step begun (.place seedBench rfl rfl rfl)
  refine .step first (.place seedBench rfl rfl ?_)
  exact JobStage.placeNew_of_new (by decide)

theorem fox_and_elk_apart :
    Reachable Float 2 twoPlaced ∧ twoPlaced.NewNames ∧ twoPlaced.queue.running = 2 ∧
      twoPlaced.targets = [⟨"seed"⟩, ⟨freshName 0⟩] ∧ twoPlaced.targets.Nodup := by
  have new : twoPlaced.NewNames := ⟨by decide, by decide⟩
  obtain ⟨-, running, -, -, -, -, -, apart⟩ := work_is_exclusive reachable_twoPlaced
  exact ⟨reachable_twoPlaced, new, running, rfl, apart new⟩

end Workshop

end PromptCanvas

import Mathlib.Order.Lattice.Nat
import PromptCanvas.Proofs.Retry
import PromptCanvas.Session.Step

/-!
How often a save is attempted, and how long it rests in between.

A save that has its cargo sends it, and rests before it sends it again.  Its attempts have any
outcomes, numbered from one, and between two steps anything may happen elsewhere.  The save goes on
up to the first outcome that decides, or as long as its policy allows, and ends with that outcome.
-/

set_option autoImplicit false
set_option relaxedAutoImplicit false

namespace PromptCanvas

/-- What a save does about its cargo: it sends it and is answered, or it rests for a time. -/
inductive Effort where
  | attempt (outcome : Except ServiceError Unit)
  | rest (delay : Nat)
  deriving Repr, DecidableEq

namespace Effort

def outcome? : Effort → Option (Except ServiceError Unit)
  | attempt outcome => some outcome
  | rest _ => none

def delay? : Effort → Option Nat
  | attempt _ => none
  | rest delay => some delay

def outcomesIn (efforts : List Effort) : List (Except ServiceError Unit) :=
  efforts.filterMap outcome?

def Follow (outcomes : Nat → Except ServiceError Unit) (efforts : List Effort) : Prop :=
  ∀ i outcome, (outcomesIn efforts)[i]? = some outcome → outcome = outcomes (i + 1)

end Effort

open Effort (outcomesIn Follow)

namespace RetryPolicy

variable {α : Type}

/-- The attempts behind which there is none: the last one that is allowed, one that succeeds, and
one that fails for good. -/
def Stops (p : RetryPolicy α) (outcomes : Nat → Except ServiceError Unit) : Set Nat :=
  {n | n = max 1 p.maxAttempts ∨
    1 ≤ n ∧ (outcomes n = .ok () ∨ ∃ e, outcomes n = .error e ∧ e.isRetryable = false)}

variable [Scalar α] (p : RetryPolicy α) (outcomes : Nat → Except ServiceError Unit)

def gap : Nat → List Effort
  | 0 => []
  | n + 1 => [.rest (p.delay n)]

def efforts : Nat → List Effort
  | 0 => []
  | n + 1 => efforts n ++ p.gap n ++ [.attempt (outcomes (n + 1))]

end RetryPolicy

namespace SaveStage

def failure? : Except ServiceError Unit → Option ServiceError
  | .ok () => none
  | .error e => some e

variable {α : Type}

/-- What a stage does that was reached at the time `since`, given its answer. -/
def effort (since : Nat) : (stage : SaveStage α) → stage.ask.Answer → List Effort
  | sending (.scene _) _, reply => [.attempt reply]
  | sending (.view ..) _, reply => [.attempt reply]
  | resting _ _ wake, _ => [.rest (wake - since)]
  | opening _, _ => []
  | closing .., _ => []

def DueAt (now : Nat) (stage : SaveStage α) : Prop :=
  ∀ wakes, stage.ask = .rest wakes → ∃ wake ∈ wakes, wake ≤ now

end SaveStage

/-- A save with its cargo on its way: its efforts so far, its stage, and when it got there. -/
inductive Trying {α : Type} [Scalar α] (policy : RetryPolicy α) (cargo : Cargo α) :
    List Effort → SaveStage α → Nat → Prop
  | start (now : Nat) : Trying policy cargo [] (.sending cargo 0) now
  | step {efforts : List Effort} {stage next : SaveStage α} {since : Nat} (b : Workbench α)
      (reply : stage.ask.Answer) :
      Trying policy cargo efforts stage since → since ≤ b.now → stage.DueAt b.now →
      (stage.resume policy b reply).1 = .more next →
      Trying policy cargo (efforts ++ stage.effort since reply) next b.now

section Efforts

variable {α : Type} [Scalar α] {policy : RetryPolicy α}
  {outcomes : Nat → Except ServiceError Unit} {n : Nat}

private theorem outcomesIn_append (before after : List Effort) :
    outcomesIn (before ++ after) = outcomesIn before ++ outcomesIn after :=
  List.filterMap_append

private theorem Effort.Follow.of_append {before after : List Effort}
    (follow : Follow outcomes (before ++ after)) : Follow outcomes before := by
  intro i outcome there
  refine follow i outcome ?_
  rw [outcomesIn_append]
  obtain ⟨within, -⟩ := List.getElem?_eq_some_iff.mp there
  rwa [List.getElem?_append_left within]

private theorem outcomesIn_gap (n : Nat) : outcomesIn (policy.gap n) = [] := by
  cases n <;> rfl

private theorem outcomesIn_efforts (n : Nat) :
    outcomesIn (policy.efforts outcomes n) = (List.range n).map fun i => outcomes (i + 1) := by
  induction n with
  | zero => rfl
  | succ n ih =>
    rw [RetryPolicy.efforts, outcomesIn_append, outcomesIn_append, ih, outcomesIn_gap,
      List.append_nil, List.range_succ, List.map_append]
    rfl

private theorem length_outcomesIn_efforts (n : Nat) :
    (outcomesIn (policy.efforts outcomes n)).length = n := by
  rw [outcomesIn_efforts, List.length_map, List.length_range]

private theorem length_outcomesIn_efforts_gap (n : Nat) :
    (outcomesIn (policy.efforts outcomes n ++ policy.gap n)).length = n := by
  rw [outcomesIn_append, outcomesIn_gap, List.append_nil, length_outcomesIn_efforts]

private theorem delays_efforts (n : Nat) :
    (policy.efforts outcomes n).filterMap Effort.delay? =
      (List.range (n - 1)).map policy.delay := by
  induction n with
  | zero => rfl
  | succ n ih =>
    rw [RetryPolicy.efforts, List.filterMap_append, List.filterMap_append, ih]
    cases n with
    | zero => rfl
    | succ n =>
      have gap : (policy.gap (n + 1)).filterMap Effort.delay? = [policy.delay n] := rfl
      rw [Nat.add_sub_cancel, Nat.add_sub_cancel, List.range_succ, List.map_append, gap]
      exact List.append_nil _

private theorem prefix_efforts {m : Nat} (le : n ≤ m) :
    policy.efforts outcomes n <+: policy.efforts outcomes m := by
  induction le with
  | refl => exact List.prefix_refl _
  | step _ ih =>
    rw [RetryPolicy.efforts, List.append_assoc]
    exact ih.trans (List.prefix_append _ _)

private theorem follow_efforts (n : Nat) : Follow outcomes (policy.efforts outcomes n) := by
  intro i outcome there
  rw [outcomesIn_efforts, List.getElem?_map] at there
  obtain ⟨j, place, rfl⟩ := Option.map_eq_some_iff.mp there
  obtain ⟨within, rfl⟩ := List.getElem?_eq_some_iff.mp place
  rw [List.getElem_range]

end Efforts

namespace Trying

variable {α : Type} [Scalar α] {policy : RetryPolicy α} {cargo : Cargo α}
  {outcomes : Nat → Except ServiceError Unit} {k n : Nat}

private theorem attempted_of_stops (here : n + 1 ∈ policy.Stops outcomes) (b : Workbench α) :
    (SaveStage.attempted policy cargo n b (outcomes (n + 1))).1 =
      .closing cargo (SaveStage.failure? (outcomes (n + 1))) := by
  cases outcome : outcomes (n + 1) with
  | ok => rfl
  | error e =>
    have halts : ¬ (e.isRetryable && decide (n + 1 < policy.attempts)) = true := by
      intro goes
      obtain ⟨retryable, more⟩ := Bool.and_eq_true_iff.mp goes
      have more : n + 1 < max policy.maxAttempts 1 := of_decide_eq_true more
      rcases here with all | ⟨-, done | ⟨e', failed, final⟩⟩
      · omega
      · cases outcome.symm.trans done
      · cases outcome.symm.trans failed
        exact Bool.false_ne_true (final.symm.trans retryable)
    have none : policy.delayAfter? n e.isRetryable = none := if_neg halts
    simp only [SaveStage.attempted, none, SaveStage.failure?]

private theorem attempted_of_not_stops (within : n + 1 ≤ max 1 policy.maxAttempts)
    (passed : n + 1 ∉ policy.Stops outcomes) (b : Workbench α) :
    (SaveStage.attempted policy cargo n b (outcomes (n + 1))).1 =
      .resting cargo n (b.now + policy.delay n) := by
  have first : 1 ≤ n + 1 := Nat.le_add_left 1 n
  cases outcome : outcomes (n + 1) with
  | ok => exact absurd (.inr ⟨first, .inl outcome⟩) passed
  | error e =>
    have retryable : e.isRetryable = true := by
      cases again : e.isRetryable with
      | true => rfl
      | false => exact absurd (.inr ⟨first, .inr ⟨e, outcome, again⟩⟩) passed
    have more : n + 1 < policy.attempts := by
      have other : n + 1 ≠ max 1 policy.maxAttempts := fun all => passed (.inl all)
      rw [RetryPolicy.attempts]
      omega
    have some : policy.delayAfter? n e.isRetryable = some (policy.delay n) := by
      rw [RetryPolicy.delayAfter?, retryable, decide_eq_true more]
      rfl
    simp only [SaveStage.attempted, some]

inductive Stands (policy : RetryPolicy α) (cargo : Cargo α)
    (outcomes : Nat → Except ServiceError Unit) (k : Nat) :
    List Effort → SaveStage α → Nat → Prop
  | sending {since : Nat} (n : Nat) : n < k →
      Stands policy cargo outcomes k (policy.efforts outcomes n ++ policy.gap n)
        (.sending cargo n) since
  | resting {since : Nat} (n : Nat) : n + 1 < k →
      Stands policy cargo outcomes k (policy.efforts outcomes (n + 1))
        (.resting cargo n (since + policy.delay n)) since
  | closing {since : Nat} :
      Stands policy cargo outcomes k (policy.efforts outcomes k)
        (.closing cargo (SaveStage.failure? (outcomes k))) since

private theorem stands_attempted (cargo : Cargo α) (least : IsLeast (policy.Stops outcomes) k)
    (before : n < k) (b : Workbench α) :
    Stands policy cargo outcomes k (policy.efforts outcomes (n + 1))
      (SaveStage.attempted policy cargo n b (outcomes (n + 1))).1 b.now := by
  obtain ⟨stops, lower⟩ := least
  by_cases here : n + 1 ∈ policy.Stops outcomes
  · obtain rfl : k = n + 1 := Nat.le_antisymm (lower here) before
    rw [attempted_of_stops here]
    exact .closing
  · have within : k ≤ max 1 policy.maxAttempts := lower (.inl rfl)
    have apart : n + 1 ≠ k := fun same => here (same ▸ stops)
    rw [attempted_of_not_stops (Nat.le_trans before within) here]
    exact .resting n (Nat.lt_of_le_of_ne before apart)

variable {efforts : List Effort} {stage next : SaveStage α} {since : Nat}

private theorem eq_of_follow {reply : Except ServiceError Unit}
    (follow : Follow outcomes (policy.efforts outcomes n ++ policy.gap n ++ [.attempt reply])) :
    reply = outcomes (n + 1) := by
  refine follow n reply ?_
  have length : (outcomesIn (policy.efforts outcomes n ++ policy.gap n)).length = n :=
    length_outcomesIn_efforts_gap n
  rw [outcomesIn_append, List.getElem?_append_right (Nat.le_of_eq length), length, Nat.sub_self]
  rfl

private theorem Stands.step (least : IsLeast (policy.Stops outcomes) k) (b : Workbench α)
    {reply : stage.ask.Answer} (stands : Stands policy cargo outcomes k efforts stage since)
    (follow : Follow outcomes (efforts ++ stage.effort since reply))
    (goes : (stage.resume policy b reply).1 = .more next) :
    Stands policy cargo outcomes k (efforts ++ stage.effort since reply) next b.now := by
  cases stands with
  | sending n before =>
    have attempted := stands_attempted cargo least before b
    cases cargo <;>
      · obtain rfl : reply = outcomes (n + 1) := eq_of_follow follow
        obtain rfl := Progress.more.inj goes
        exact attempted
  | resting n before =>
    obtain rfl := Progress.more.inj goes
    have rest : since + policy.delay n - since = policy.delay n := Nat.add_sub_cancel_left _ _
    rw [SaveStage.effort, rest]
    exact .sending (n + 1) before
  | closing => cases cargo <;> cases goes

private theorem stands (least : IsLeast (policy.Stops outcomes) k)
    (trying : Trying policy cargo efforts stage since) (follow : Follow outcomes efforts) :
    Stands policy cargo outcomes k efforts stage since := by
  induction trying with
  | start now =>
    have some : 0 < k := by
      rcases least.1 with all | ⟨positive, -⟩ <;> omega
    exact .sending 0 some
  | step b reply _ _ _ goes ih => exact (ih follow.of_append).step least b follow goes

/-- A save that has not made all efforts goes on, with the next outcome if it makes an attempt. -/
private theorem Stands.goes_on (stands : Stands policy cargo outcomes k efforts stage since)
    (unfinished : efforts ≠ policy.efforts outcomes k) (b : Workbench α) :
    ∃ reply next, (stage.resume policy b reply).1 = .more next ∧
      stage.effort since reply ≠ [] ∧ Follow outcomes (efforts ++ stage.effort since reply) := by
  cases stands with
  | sending n before =>
    have follow : Follow outcomes (policy.efforts outcomes (n + 1)) := follow_efforts (n + 1)
    cases cargo <;> exact ⟨outcomes (n + 1), _, rfl, nofun, follow⟩
  | @resting since n before =>
    refine ⟨(), _, rfl, nofun, ?_⟩
    have rest : since + policy.delay n - since = policy.delay n := Nat.add_sub_cancel_left _ _
    change Follow outcomes (_ ++ [.rest (since + policy.delay n - since)])
    rw [rest]
    exact (follow_efforts (n + 2)).of_append
  | closing => exact absurd rfl unfinished

private theorem Stands.isPrefix (stands : Stands policy cargo outcomes k efforts stage since) :
    efforts <+: policy.efforts outcomes k := by
  cases stands with
  | sending n before =>
    refine List.IsPrefix.trans ?_ (prefix_efforts before)
    exact List.prefix_append _ _
  | resting n before => exact prefix_efforts (Nat.le_of_lt before)
  | closing => exact List.prefix_refl _

private theorem Stands.closing_iff (stands : Stands policy cargo outcomes k efforts stage since) :
    stage = .closing cargo (SaveStage.failure? (outcomes k)) ↔
      efforts = policy.efforts outcomes k := by
  -- Where the save goes on, it has made fewer attempts.
  have apart {part : List Effort} (fewer : (outcomesIn part).length < k) :
      part ≠ policy.efforts outcomes k := by
    rintro rfl
    rw [length_outcomesIn_efforts] at fewer
    exact Nat.lt_irrefl k fewer
  cases stands with
  | sending n before =>
    refine ⟨nofun, fun all => absurd all (apart ?_)⟩
    rwa [length_outcomesIn_efforts_gap]
  | resting n before =>
    refine ⟨nofun, fun all => absurd all (apart ?_)⟩
    rwa [length_outcomesIn_efforts]
  | closing => exact ⟨fun _ => rfl, fun _ => rfl⟩

section Driven

variable {s s' : Session α} {w : Nat} {party : Party}

omit [Scalar α] in
private theorem now_wakeTask (s : Session α) (task : Option Nat) :
    (s.wakeTask task).now = s.now := by
  cases task with
  | none => rfl
  | some id =>
    change (s.agenda.wake id).now = s.agenda.now
    unfold Agenda.wake
    split <;> rfl

private theorem now_of_answer {ask : Ask α} {reply : ask.Answer}
    (answered : s.answer w party ask = (some reply, s')) : s'.now = s.now := by
  cases ask with
  | lock =>
    change s.requestLock w party = _ at answered
    unfold Session.requestLock at answered
    split at answered
    · cases answered
    · obtain ⟨-, rfl⟩ := Prod.mk.inj answered
      rfl
  | unlock =>
    obtain ⟨-, rfl⟩ := Prod.mk.inj answered
    unfold Session.releaseLock
    split
    · rfl
    · exact now_wakeTask _ _
  | rest wakes =>
    change s.restUntil party wakes = _ at answered
    unfold Session.restUntil at answered
    split at answered <;> cases answered
    rfl
  | go | upload | saveScene | saveView | createRun | subscribe | next | leave =>
    obtain ⟨-, rfl⟩ := Prod.mk.inj answered
    rfl

private theorem dueAt_of_answer {reply : stage.ask.Answer}
    (answered : s.answer w party stage.ask = (some reply, s')) : stage.DueAt s.now := by
  intro wakes asks
  cases stage with
  | resting cargo tries wake =>
    obtain rfl := Ask.rest.inj asks
    change s.restUntil party [wake] = _ at answered
    unfold Session.restUntil at answered
    split at answered
    · next due => simpa using due
    · cases answered
  | opening kind => cases kind <;> cases asks
  | sending cargo tries => cases cargo <;> cases asks
  | closing cargo failure => cases cargo <;> cases asks

private theorem of_drive (trying : Trying policy cargo efforts stage since) (later : since ≤ s.now)
    (driven : s.drive w party stage.ask (fun b reply => stage.resume policy b reply) =
      (some (.more next), s')) :
    ∃ reply, Trying policy cargo (efforts ++ stage.effort since reply) next s.now := by
  unfold Session.drive at driven
  cases answered : s.answer w party stage.ask with
  | mk given s₁ =>
    cases given with
    | none =>
      simp only [answered] at driven
      cases (Prod.mk.inj driven).1
    | some reply =>
      cases found : s₁.workbench? w with
      | none =>
        simp only [answered, found] at driven
        cases (Prod.mk.inj driven).1
      | some b =>
        simp only [answered, found] at driven
        obtain ⟨workspace, -, rfl⟩ := Option.map_eq_some_iff.mp found
        have now := now_of_answer answered
        have goes := Option.some.inj (Prod.mk.inj driven).1
        have due := dueAt_of_answer answered
        rw [← now] at later due ⊢
        exact ⟨reply, trying.step _ reply later due goes⟩

end Driven

end Trying

private theorem RetryPolicy.exists_isLeast_stops {α : Type} (p : RetryPolicy α)
    (outcomes : Nat → Except ServiceError Unit) : ∃ k, IsLeast (p.Stops outcomes) k := by
  have some : (p.Stops outcomes).Nonempty := ⟨max 1 p.maxAttempts, .inl rfl⟩
  exact ⟨sInf (p.Stops outcomes), Nat.sInf_mem some, fun n there => Nat.sInf_le there⟩

/-- A save goes on up to the first attempt behind which there is none.  It makes these attempts and
no others, rests between them as its policy says, and ends with the last outcome; on its way it is
never stuck, and a session lets it go on in this way only.  The rests of an exact policy that grows
do not get shorter, and stay between the first and the longest one. -/
theorem attempts_end_with_what_decides {α : Type} [Scalar α] (policy : RetryPolicy α)
    (cargo : Cargo α) (outcomes : Nat → Except ServiceError Unit) :
    (∃ k, IsLeast (policy.Stops outcomes) k ∧
      (policy.efforts outcomes k).filterMap Effort.outcome? =
        (List.range k).map (fun i => outcomes (i + 1)) ∧
      (policy.efforts outcomes k).filterMap Effort.delay? =
        (List.range (k - 1)).map policy.delay ∧
      ∀ efforts stage since, Trying policy cargo efforts stage since → Follow outcomes efforts →
        efforts <+: policy.efforts outcomes k ∧
        (stage = .closing cargo (SaveStage.failure? (outcomes k)) ↔
          efforts = policy.efforts outcomes k) ∧
        (efforts = policy.efforts outcomes k → ∀ (b : Workbench α) (reply : stage.ask.Answer),
          (stage.resume policy b reply).1 =
            .done ⟨cargo, SaveStage.failure? (outcomes k)⟩) ∧
        (efforts ≠ policy.efforts outcomes k →
          ∀ b : Workbench α, since ≤ b.now → stage.DueAt b.now →
          ∃ more next, more ≠ [] ∧ Trying policy cargo (efforts ++ more) next b.now ∧
            Follow outcomes (efforts ++ more))) ∧
    (∀ (s s' : Session α) (w : Nat) (party : Party) (efforts : List Effort)
      (stage next : SaveStage α) (since : Nat),
      Trying policy cargo efforts stage since → since ≤ s.now →
        s.drive w party stage.ask (fun b reply => stage.resume policy b reply) =
          (some (.more next), s') →
        ∃ reply, Trying policy cargo (efforts ++ stage.effort since reply) next s.now) ∧
    ∀ (exact : RetryPolicy ℝ) (k : Nat), 1 ≤ exact.multiplier → k < 2 ^ 31 →
      ((List.range (k - 1)).map exact.delay).Pairwise (· ≤ ·) ∧
      ∀ delay ∈ (List.range (k - 1)).map exact.delay,
        min exact.initialDelay exact.maxDelay ≤ delay ∧ delay ≤ exact.maxDelay := by
  refine ⟨?_, ?_, fun exact k grows small => ⟨?_, ?_⟩⟩
  · obtain ⟨k, least⟩ := policy.exists_isLeast_stops outcomes
    refine ⟨k, least, outcomesIn_efforts k, delays_efforts k, ?_⟩
    intro efforts stage since trying follow
    have stands := trying.stands least follow
    refine ⟨stands.isPrefix, stands.closing_iff, fun all b reply => ?_,
      fun unfinished b later due => ?_⟩
    · obtain rfl := stands.closing_iff.mpr all
      cases cargo <;> rfl
    · obtain ⟨reply, next, goes, some, follow⟩ := stands.goes_on unfinished b
      exact ⟨_, next, some, trying.step b reply later due goes, follow⟩
  · intro s s' w party efforts stage next since trying later driven
    exact trying.of_drive later driven
  · rw [List.pairwise_map]
    refine List.Pairwise.imp_of_mem ?_ List.pairwise_lt_range
    intro i j _ within less
    exact exact.delay_mono grows (Nat.le_of_lt less) (by grind)
  · intro delay mem
    obtain ⟨i, within, rfl⟩ := List.mem_map.mp mem
    exact exact.delay_mem grows (by grind)

end PromptCanvas

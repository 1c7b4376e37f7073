import Mathlib.Logic.Relation
import PromptCanvas.Proofs.Autosave.Unsaved

set_option autoImplicit false
set_option relaxedAutoImplicit false

namespace PromptCanvas

/-- What a save does. -/
inductive Entry (α : Type) where
  | captured (party : Party) (snapshot : Snapshot α)
  | sent (party : Party) (snapshot : Snapshot α)
  | answered (party : Party) (reply : Except ServiceError Unit)
  | ended (party : Party) (result : Except ServiceError SaveReport)
  deriving Repr, DecidableEq

/-- An archive, and what its saves have done. -/
structure Ledger (α : Type) where
  archive : Archive α
  /-- The revision that the party with the lock has read, if it is still to capture the scene. -/
  read : Option Nat
  log : List (Entry α)
  deriving Repr, DecidableEq

namespace SceneSave

variable {α : Type}

def heard (party : Party) : (stage : SaveStage α) → stage.ask.Answer → List (Entry α)
  | .sending (.scene _) _, reply => [.answered party reply]
  | .sending (.view ..) _, _ => []
  | .opening _, _ => []
  | .resting .., _ => []
  | .closing .., _ => []

def said (save : SceneSave α) : Progress (SaveStage α) (SaveResult α) → List (Entry α)
  | .more (.sending (.scene snapshot) _) =>
    match save.stage with
    | .opening _ => [.captured save.party snapshot, .sent save.party snapshot]
    | _ => [.sent save.party snapshot]
  | .more _ => []
  | .done result => result.report?.toList.map (.ended save.party)

def notes (save : SceneSave α) (answer : save.stage.ask.Answer)
    (progress : Progress (SaveStage α) (SaveResult α)) : List (Entry α) :=
  heard save.party save.stage answer ++ save.said progress

end SceneSave

namespace Archive

variable {α : Type} {a b : Archive α}

def withStore (a : Archive α) (store : Store α) : Archive α :=
  { a with bench := { a.bench with store } }

private theorem withStore_of_eq {store : Store α} (same : a.bench.store = store) :
    a.withStore store = a := by
  rw [withStore, ← same]

private theorem saves_advance (a : Archive α) (next : Debouncer Nat) :
    (a.advance next).saves =
      if next.isRunning then a.saves ++ [.opening a.keeper] else a.saves := by
  unfold advance
  split <;> rfl

variable [Scalar α] {policy : RetryPolicy α}

private theorem Step.extends_or_goOn (step : Step policy a b) :
    a.saves <+: b.saves ∨
      ∃ before save after lock, ∃ answer : SaveStage.ask save.stage |>.Answer,
        a.saves = before ++ save :: after ∧ a.Answers save.party save.stage.ask lock ∧
          b = a.goOn policy before save after lock answer := by
  cases step with
  | goOn answer under answers => exact .inr ⟨_, _, _, _, answer, under, answers, rfl⟩
  | saveNow party other idle => exact .inl (List.prefix_append _ _)
  | advance moved =>
    refine .inl ?_
    rw [saves_advance]
    split
    · exact List.prefix_append _ _
    · exact List.prefix_refl _
  | look waiting inbox =>
    refine .inl ?_
    rw [saves_advance]
    split
    · exact List.prefix_append _ _
    · exact List.prefix_refl _
  | change change => cases change <;> exact .inl (List.prefix_refl _)
  | flush | elapse | await | elsewhere => exact .inl (List.prefix_refl _)

end Archive

namespace Ledger

variable {α : Type}

/-- The archive as the party with the lock sees it: the revision is the one that it has read. -/
def seen (l : Ledger α) : Archive α :=
  let store := l.archive.bench.store
  l.archive.withStore { store with revision := l.read.getD store.revision }

/-- No save is under way, and nothing was written down. -/
structure Start (l : Ledger α) : Prop where
  saves : l.archive.saves = []
  idle : l.archive.debouncer.isRunning = false
  read : l.read = none
  log : l.log = []

variable [Scalar α]

/-- The save between `before` and `after` goes on with an answer, and notes what it does. -/
def goOn (policy : RetryPolicy α) (l : Ledger α) (before : List (SceneSave α))
    (save : SceneSave α) (after : List (SceneSave α)) (lock : SaveLock)
    (answer : save.stage.ask.Answer) : Ledger α :=
  { archive := (l.seen.goOn policy before save after lock answer).withStore l.archive.bench.store
    read := none
    log := l.log ++ save.notes answer (save.stage.resume policy l.seen.bench answer).1 }

/-- One step of one party. -/
inductive Step (policy : RetryPolicy α) : Ledger α → Ledger α → Prop
  /-- Any step of an archive in which no save goes on.  Names that were handed out stay so. -/
  | aside {l : Ledger α} {b : Archive α} :
      Archive.Step policy l.archive b → l.archive.saves <+: b.saves →
        l.archive.bench.issued ≤ b.bench.issued → Step policy l { l with archive := b }
  | read {l : Ledger α} (save : SceneSave α) {lock : SaveLock} :
      save ∈ l.archive.saves → save.stage = .opening .scene → l.read = none →
        l.archive.saver.lock.request save.party = (true, lock) →
        Step policy l { l with
          archive := l.archive.putLock lock
          read := some l.archive.bench.store.revision }
  | goOn {l : Ledger α} {before after : List (SceneSave α)} (save : SceneSave α)
      {lock : SaveLock} (answer : save.stage.ask.Answer) :
      l.archive.saves = before ++ save :: after →
        l.archive.Answers save.party save.stage.ask lock →
        Step policy l (l.goOn policy before save after lock answer)

variable {policy : RetryPolicy α}

omit [Scalar α] in
private theorem seen_of_unread {l : Ledger α} (unread : l.read = none) : l.seen = l.archive := by
  rw [seen, unread]
  exact Archive.withStore_of_eq rfl

private theorem archive_goOn {l : Ledger α} (unread : l.read = none) (before : List (SceneSave α))
    (save : SceneSave α) (after : List (SceneSave α)) (lock : SaveLock)
    (answer : save.stage.ask.Answer) :
    (l.goOn policy before save after lock answer).archive =
      l.archive.goOn policy before save after lock answer := by
  rw [goOn, seen_of_unread unread]
  refine Archive.withStore_of_eq ?_
  rw [Archive.goOn, (Archive.proceed_eq _ _ _ _ _).1]
  exact (SaveStage.resume_keeps policy l.archive.bench answer).1

theorem step_of_archive {l : Ledger α} {b : Archive α} (unread : l.read = none)
    (names : l.archive.bench.issued ≤ b.bench.issued) (step : Archive.Step policy l.archive b) :
    ∃ log, Step policy l ⟨b, none, log⟩ := by
  rcases step.extends_or_goOn with more | ⟨before, save, after, lock, answer, under, answers, rfl⟩
  · refine ⟨l.log, ?_⟩
    rw [← unread]
    exact .aside step more names
  · refine ⟨(l.goOn policy before save after lock answer).log, ?_⟩
    rw [← archive_goOn unread]
    exact .goOn save answer under answers

end Ledger

end PromptCanvas

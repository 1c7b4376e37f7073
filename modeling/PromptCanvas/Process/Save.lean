import PromptCanvas.Document.Json
import PromptCanvas.Process
import PromptCanvas.Retry

set_option autoImplicit false
set_option relaxedAutoImplicit false

namespace PromptCanvas

/-- What a save found out. -/
structure SaveReport where
  revision : Nat
  saved : Nat
  /-- The number of images left out because they exist in this client only. -/
  skipped : Nat
  evicted : Nat
  deriving Repr, DecidableEq

/-- What a save sends. -/
inductive Cargo (α : Type) where
  | scene (snapshot : Snapshot α)
  | view (view : ViewState α) (idempotencyKey : String)
  deriving Repr, DecidableEq

/-- How far a save is; `tries` counts the attempts before the present one. -/
inductive SaveStage (α : Type) where
  | opening (kind : SaveKind)
  | sending (cargo : Cargo α) (tries : Nat)
  | resting (cargo : Cargo α) (tries : Nat) (wake : Nat)
  | closing (cargo : Cargo α) (failure : Option ServiceError)
  deriving Repr, DecidableEq

/-- What was sent, and why it did not arrive, if it did not. -/
structure SaveResult (α : Type) where
  cargo : Cargo α
  failure : Option ServiceError
  deriving Repr, DecidableEq

variable {α : Type}

def Snapshot.report (s : Snapshot α) : SaveReport :=
  { revision := s.revision
    saved := s.document.elements.length
    skipped := s.document.omitted.skippedLocalOnly
    evicted := s.document.omitted.evicted }

def Snapshot.capture (store : Store α) (idempotencyKey : String) : Snapshot α :=
  { revision := store.revision
    document := Document.ofScene store.scene
    idempotencyKey }

namespace Cargo

def kind : Cargo α → SaveKind
  | scene _ => .scene
  | view .. => .view

end Cargo

/-- The report of a save of the scene that arrived, or why it did not. -/
def SaveResult.report? (result : SaveResult α) : Option (Except ServiceError SaveReport) :=
  match result.cargo, result.failure with
  | .scene _, some e => some (.error e)
  | .scene snapshot, none => some (.ok snapshot.report)
  | .view .., _ => none

namespace SaveStage

def capture (kind : SaveKind) (b : Workbench α) : Cargo α × Workbench α :=
  let (name, b) := b.issue
  match kind with
  | .scene => (.scene (Snapshot.capture b.store name), b)
  | .view => (.view b.store.canvas.viewport.viewState name, b)

def ask : SaveStage α → Ask α
  | opening .scene => .lock
  | opening .view => .go
  | sending (.scene snapshot) _ => .saveScene snapshot
  | sending (.view view key) _ => .saveView view key
  | resting _ _ wake => .rest [wake]
  | closing (.scene _) _ => .unlock
  | closing (.view ..) _ => .go

def attempted [Scalar α] (policy : RetryPolicy α) (cargo : Cargo α) (tries : Nat) (b : Workbench α)
    (reply : Except ServiceError Unit) : SaveStage α × Workbench α :=
  match reply with
  | .ok () => (closing cargo none, b.count (.saves cargo.kind true))
  | .error e =>
    match policy.delayAfter? tries e.isRetryable with
    | some delay => (resting cargo tries (b.now + delay), b)
    | none => (closing cargo (some e), b.count (.saves cargo.kind false))

def resume [Scalar α] (policy : RetryPolicy α) (b : Workbench α) :
    (stage : SaveStage α) → stage.ask.Answer →
      Progress (SaveStage α) (SaveResult α) × Workbench α
  | opening kind, _ =>
    let (cargo, b) := capture kind b
    (.more (sending cargo 0), b)
  | sending (.scene snapshot) tries, reply =>
    let (stage, b) := attempted policy (.scene snapshot) tries b reply
    (.more stage, b)
  | sending (.view view key) tries, reply =>
    let (stage, b) := attempted policy (.view view key) tries b reply
    (.more stage, b)
  | resting cargo tries _, _ => (.more (sending cargo (tries + 1)), b)
  | closing cargo failure, _ => (.done ⟨cargo, failure⟩, b)

end SaveStage

end PromptCanvas

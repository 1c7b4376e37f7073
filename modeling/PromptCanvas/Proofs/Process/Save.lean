import PromptCanvas.Process.Save

set_option autoImplicit false
set_option relaxedAutoImplicit false

namespace PromptCanvas

def Cargo.snapshot? {α : Type} : Cargo α → Option (Snapshot α)
  | scene snapshot => some snapshot
  | view .. => none

namespace SaveStage

def snapshot? {α : Type} : SaveStage α → Option (Snapshot α)
  | opening _ => none
  | sending cargo _ | resting cargo .. | closing cargo _ => cargo.snapshot?

variable {α : Type} [Scalar α] (policy : RetryPolicy α) (b : Workbench α)

private theorem attempted_keeps (cargo : Cargo α) (tries : Nat) (reply : Except ServiceError Unit) :
    (attempted policy cargo tries b reply).2.store = b.store ∧
      (attempted policy cargo tries b reply).2.now = b.now := by
  unfold attempted
  split
  · exact ⟨rfl, rfl⟩
  · split <;> exact ⟨rfl, rfl⟩

theorem resume_keeps {stage : SaveStage α} (reply : stage.ask.Answer) :
    (stage.resume policy b reply).2.store = b.store ∧
      (stage.resume policy b reply).2.now = b.now := by
  cases stage with
  | opening kind => cases kind <;> exact ⟨rfl, rfl⟩
  | sending cargo tries => cases cargo <;> exact attempted_keeps policy b _ tries reply
  | resting cargo tries wake => exact ⟨rfl, rfl⟩
  | closing cargo failure => exact ⟨rfl, rfl⟩

private theorem snapshot?_attempted (cargo : Cargo α) (tries : Nat)
    (reply : Except ServiceError Unit) :
    (attempted policy cargo tries b reply).1.snapshot? = cargo.snapshot? := by
  unfold attempted
  split
  · rfl
  · split <;> rfl

theorem snapshot?_resume {stage next : SaveStage α} {reply : stage.ask.Answer}
    (goes : (stage.resume policy b reply).1 = .more next) {snapshot : Snapshot α}
    (holds : snapshot ∈ next.snapshot?) :
    snapshot ∈ stage.snapshot? ∨
      stage = .opening .scene ∧ snapshot.document = Document.ofScene b.store.scene := by
  cases stage with
  | opening kind =>
    obtain rfl := Progress.more.inj goes
    cases kind with
    | scene =>
      obtain rfl := Option.some.inj holds
      exact .inr ⟨rfl, rfl⟩
    | view => cases holds
  | sending cargo tries =>
    have same : next.snapshot? = cargo.snapshot? := by
      cases cargo <;>
        · obtain rfl := Progress.more.inj goes
          exact snapshot?_attempted policy b _ tries reply
    rw [same] at holds
    exact .inl holds
  | resting cargo tries wake =>
    obtain rfl := Progress.more.inj goes
    exact .inl holds
  | closing cargo failure => cases goes

end SaveStage

end PromptCanvas

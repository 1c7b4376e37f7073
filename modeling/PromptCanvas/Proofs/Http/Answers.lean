import Mathlib.Logic.Basic
import PromptCanvas.Http

set_option autoImplicit false
set_option relaxedAutoImplicit false

namespace PromptCanvas.Http

def Succeeded (status : Nat) : Prop := 200 ≤ status ∧ status < 300

/-- The status of a service that cannot answer for the moment. -/
def Strained (status : Nat) : Prop := 500 ≤ status ∧ status < 600 ∨ status = 429

/-- The call opens a result stream, whose answer is no envelope. -/
def Call.OpensStream (call : Call) : Prop := ∃ runId, call = .streamRun runId

private theorem isSuccess_iff {status : Nat} : isSuccess status = true ↔ Succeeded status := by
  simp [isSuccess, Succeeded]

private theorem isUnavailable_iff {status : Nat} :
    isUnavailable status = true ↔ Strained status := by
  simp [isUnavailable, Strained]

private theorem Succeeded.not_strained {status : Nat} (success : Succeeded status) :
    ¬ Strained status := by
  unfold Succeeded at success
  unfold Strained
  omega

private theorem statusCode_ne_empty (status : Nat) : statusCode status ≠ "" := by
  intro empty
  have length := congrArg String.length empty
  simp [statusCode] at length

private theorem exists_error_iff {γ : Type} {e : ServiceError} :
    (∃ e' : ServiceError, (.error e : Except ServiceError γ) = .error e' ∧ e'.isRetryable = true) ↔
      e.isRetryable = true := by
  simp

section Judgement

variable {β : Type} {parse : List UInt8 → Option (Envelope β)} {status : Nat} {body : List UInt8}

private theorem interpretBy_of_strained (strained : Strained status) :
    interpretBy parse (.answered status body) = .error (unavailableBy status (bodyText body)) :=
  if_pos (isUnavailable_iff.mpr strained)

private theorem interpretBy_of_not_strained (strained : ¬ Strained status) :
    interpretBy parse (.answered status body) = judge status body (parse body) :=
  if_neg (isUnavailable_iff.not.mpr strained)

private theorem judge_eq_ok_iff {envelope : Option (Envelope β)} {data : Option β} :
    judge status body envelope = .ok data ↔
      Succeeded status ∧ ∃ e, envelope = some e ∧ e.success = true ∧ e.data = data := by
  cases envelope with
  | none =>
    rw [judge]
    split <;> simp
  | some e =>
    rw [judge]
    split
    · next both =>
      obtain ⟨success, whole⟩ := Bool.and_eq_true_iff.mp both
      have status := isSuccess_iff.mp success
      simp [status, whole]
    · next lacks =>
      have either : ¬ (Succeeded status ∧ e.success = true) := fun ⟨status, whole⟩ =>
        lacks (Bool.and_eq_true_iff.mpr ⟨isSuccess_iff.mpr status, whole⟩)
      constructor
      · nofun
      · rintro ⟨status, other, same, whole, -⟩
        obtain rfl := Option.some.inj same
        exact absurd ⟨status, whole⟩ either

private theorem judge_not_retryable {envelope : Option (Envelope β)} {e : ServiceError}
    (failed : judge status body envelope = .error e) : e.isRetryable = false := by
  cases envelope with
  | none =>
    rw [judge] at failed
    split at failed <;> cases failed <;> rfl
  | some envelope =>
    rw [judge] at failed
    split at failed <;> cases failed
    rfl

private theorem judge_of_no_envelope (failed : ¬ Succeeded status) :
    judge status body (none : Option (Envelope β)) =
      .error (.refused (statusCode status) (bodyText body)) :=
  if_neg (isSuccess_iff.not.mpr failed)

private theorem judge_of_refusal {e : Envelope β} (failed : Succeeded status → e.success = false) :
    judge status body (some e) = .error (refusedBy status e.refusal) := by
  refine if_neg fun both => ?_
  obtain ⟨success, whole⟩ := Bool.and_eq_true_iff.mp both
  exact Bool.false_ne_true ((failed (isSuccess_iff.mp success)).symm.trans whole)

private theorem exists_refusedBy (status : Nat) (refusal : Option Refusal) :
    ∃ code message, refusedBy status refusal = .refused code message ∧ code ≠ "" ∧
      ∀ r, refusal = some r → r.code ≠ "" → code = r.code := by
  refine ⟨_, _, rfl, ?_, ?_⟩
  · split
    · exact statusCode_ne_empty status
    · next given => exact given
  · rintro r rfl given
    exact if_neg given

private theorem ok_iff {data : Option β} :
    interpretBy parse (.answered status body) = .ok data ↔
      Succeeded status ∧ ∃ e, parse body = some e ∧ e.success = true ∧ e.data = data := by
  by_cases strained : Strained status
  · rw [interpretBy_of_strained strained]
    exact ⟨nofun, fun ⟨success, _⟩ => absurd strained success.not_strained⟩
  · rw [interpretBy_of_not_strained strained, judge_eq_ok_iff]

private theorem retryable_iff :
    (∃ e : ServiceError,
      interpretBy parse (.answered status body) = .error e ∧ e.isRetryable = true) ↔
        Strained status := by
  constructor
  · rintro ⟨e, failed, again⟩
    refine not_not.mp fun calm => ?_
    rw [interpretBy_of_not_strained calm] at failed
    exact Bool.false_ne_true ((judge_not_retryable failed).symm.trans again)
  · intro strained
    exact ⟨_, interpretBy_of_strained strained, rfl⟩

private theorem exists_refused (parse : List UInt8 → Option (Envelope β)) (calm : ¬ Strained status)
    (failed : ¬ Succeeded status ∨ ∃ e, parse body = some e ∧ e.success = false) :
    ∃ code message, interpretBy parse (.answered status body) = .error (.refused code message) ∧
      code ≠ "" ∧ ∀ e refusal, parse body = some e → e.refusal = some refusal →
        refusal.code ≠ "" → code = refusal.code := by
  rw [interpretBy_of_not_strained calm]
  cases read : parse body with
  | none =>
    have unsuccessful : ¬ Succeeded status := failed.resolve_right (by simp [read])
    exact ⟨_, _, judge_of_no_envelope unsuccessful, statusCode_ne_empty status, nofun⟩
  | some e =>
    have refuses : Succeeded status → e.success = false := by
      intro success
      obtain ⟨other, same, refuses⟩ := failed.resolve_left (not_not.mpr success)
      obtain rfl := Option.some.inj (read.symm.trans same)
      exact refuses
    obtain ⟨code, message, refused, some, given⟩ := exists_refusedBy status e.refusal
    refine ⟨code, message, (judge_of_refusal refuses).trans (congrArg _ refused), some, ?_⟩
    intro other refusal same
    obtain rfl := Option.some.inj same
    exact given refusal

end Judgement

section Calls

variable {call : Call} {reply : Reply}

/-- The data of an answer is read in some way and then made use of, which fails only where data is
missing. -/
private theorem Call.exists_reader (plain : ¬ call.OpensStream) (reply : Reply) :
    ∃ (β : Type) (read : Json Float → Option β) (use : Option β → Except ServiceError Result),
      call.interpret reply = (Http.interpret read reply).bind use ∧
        ∀ data e, use data = .error e → e.isRetryable = false := by
  cases call with
  | upload workspace source =>
    refine ⟨Asset, asset?, fun data => do pure (.asset (← requireData "upload" data)), rfl,
      ?_⟩
    intro data e failed
    cases data <;> cases failed
    rfl
  | streamRun runId => exact absurd ⟨runId, rfl⟩ plain
  | deleteAsset | createRun | plan | loadScene | saveScene | saveView | listAssets =>
    exact ⟨_, _, _, rfl, fun _ _ failed => by cases failed⟩

end Calls

/-- Answers are told apart soundly, however bodies are read and whatever data is expected: what is
a success, what may be asked again, what was refused and with which code, and what cannot be read.
Of the calls whose answers are envelopes, each may be made again just if the status says so, and
none succeeds without a status of success. -/
theorem answers_are_told_apart (status : Nat) (body : List UInt8) :
    (∀ (β : Type) (parse : List UInt8 → Option (Envelope β)),
      let result := interpretBy parse (.answered status body)
      (∀ data : Option β, result = .ok data ↔
        Succeeded status ∧
          ∃ envelope, parse body = some envelope ∧ envelope.success = true ∧
            envelope.data = data) ∧
      ((∃ e : ServiceError, result = .error e ∧ e.isRetryable = true) ↔ Strained status) ∧
      (¬ Strained status →
        (¬ Succeeded status ∨ ∃ envelope, parse body = some envelope ∧ envelope.success = false) →
        ∃ code message, result = .error (.refused code message) ∧
          (ServiceError.refused code message).isRetryable = false ∧ code ≠ "" ∧
          ∀ envelope refusal, parse body = some envelope → envelope.refusal = some refusal →
            refusal.code ≠ "" → code = refusal.code) ∧
      (Succeeded status → parse body = none →
        ∃ reason, result = .error (.unreadable reason) ∧
          (ServiceError.unreadable reason).isRetryable = false)) ∧
    ∀ call : Call, ¬ call.OpensStream →
      let result := call.interpret (.answered status body)
      ((∃ e : ServiceError, result = .error e ∧ e.isRetryable = true) ↔ Strained status) ∧
      ∀ brought : Result, result = .ok brought → Succeeded status := by
  refine ⟨fun β parse => ⟨fun data => ok_iff, retryable_iff, fun calm failed => ?_,
    fun success unread => ?_⟩, fun call plain => ?_⟩
  · obtain ⟨code, message, refused, some, given⟩ := exists_refused parse calm failed
    exact ⟨code, message, refused, rfl, some, given⟩
  · refine ⟨"no envelope", ?_, rfl⟩
    rw [interpretBy_of_not_strained success.not_strained, unread]
    exact if_pos (isSuccess_iff.mpr success)
  · obtain ⟨β, read, use, same, calm⟩ := call.exists_reader plain (.answered status body)
    rw [same]
    cases outcome : interpret read (.answered status body) with
    | error e =>
      have retry : (∃ e : ServiceError, interpret read (.answered status body) = .error e ∧
          e.isRetryable = true) ↔ Strained status := retryable_iff
      rw [outcome, exists_error_iff] at retry
      exact ⟨exists_error_iff.trans retry, nofun⟩
    | ok data =>
      have success := (ok_iff.mp outcome).1
      refine ⟨⟨?_, fun strained => absurd strained success.not_strained⟩, fun _ _ => success⟩
      rintro ⟨e, failed, again⟩
      exact absurd (again.symm.trans (calm data e failed)) nofun

end PromptCanvas.Http

set_option autoImplicit false
set_option relaxedAutoImplicit false

namespace PromptCanvas

inductive SaveKind where
  | scene
  | view
  deriving Repr, DecidableEq

/-- Why a prompt was not accepted. -/
inductive Rejection where
  | noBackend
  | invalidPrompt
  | invalidTarget
  deriving Repr, DecidableEq

inductive DropReason where
  | malformed
  | unknown
  | stale
  deriving Repr, DecidableEq

inductive Metric where
  | jobsSubmitted
  | jobsRejected (reason : Rejection)
  | jobsFinished (done : Bool)
  | jobsRunning
  | jobsPending
  | saves (kind : SaveKind) (success : Bool)
  | payloadsDropped (reason : DropReason)
  | uploads (success : Bool)
  deriving Repr, DecidableEq

/-- The metrics that were touched so far, with their values. -/
structure Metrics where
  values : List (Metric × Nat)
  deriving Repr, DecidableEq

namespace SaveKind

def label : SaveKind → String
  | scene => "scene"
  | view => "viewport"

end SaveKind

namespace Rejection

def label : Rejection → String
  | noBackend => "no_backend"
  | invalidPrompt => "invalid_prompt"
  | invalidTarget => "invalid_target"

end Rejection

namespace DropReason

def label : DropReason → String
  | malformed => "malformed"
  | unknown => "unknown"
  | stale => "stale"

end DropReason

namespace Metric

def name : Metric → String
  | jobsSubmitted => "canvas_jobs_submitted_total"
  | jobsRejected _ => "canvas_jobs_rejected_total"
  | jobsFinished _ => "canvas_jobs_finished_total"
  | jobsRunning => "canvas_jobs_running"
  | jobsPending => "canvas_jobs_pending"
  | saves .. => "canvas_saves_total"
  | payloadsDropped _ => "canvas_stream_payloads_dropped_total"
  | uploads _ => "canvas_uploads_total"

def labels : Metric → List (String × String)
  | jobsSubmitted | jobsRunning | jobsPending => []
  | jobsRejected reason => [("reason", reason.label)]
  | jobsFinished done => [("outcome", if done then "done" else "error")]
  | saves kind success => [("kind", kind.label), ("success", toString success)]
  | payloadsDropped reason => [("reason", reason.label)]
  | uploads success => [("success", toString success)]

def text (m : Metric) : String :=
  match m.labels with
  | [] => m.name
  | labels =>
    m.name ++ "\x7b" ++
      ",".intercalate (labels.map fun (label, value) => label ++ "=\"" ++ value ++ "\"") ++ "\x7d"

end Metric

namespace Metrics

def none : Metrics := ⟨[]⟩

def get (m : Metrics) (metric : Metric) : Nat := (m.values.lookup metric).getD 0

def set (m : Metrics) (metric : Metric) (value : Nat) : Metrics :=
  ⟨(m.values.filter fun entry => entry.1 ≠ metric) ++ [(metric, value)]⟩

def count (m : Metrics) (metric : Metric) : Metrics := m.set metric (m.get metric + 1)

def lines (m : Metrics) : List String :=
  (m.values.map fun (metric, value) => metric.text ++ " " ++ toString value).mergeSort
    fun a b => a ≤ b

end Metrics

end PromptCanvas

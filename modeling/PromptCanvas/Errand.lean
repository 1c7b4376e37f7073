import PromptCanvas.CommandLine
import PromptCanvas.Http
import PromptCanvas.Session
import PromptCanvas.Text.Quoted

set_option autoImplicit false
set_option relaxedAutoImplicit false

namespace PromptCanvas

def LoadReport.line (r : LoadReport) : String :=
  "loaded " ++ toString r.elements ++ " element(s); " ++ toString r.missingAssets ++
    " missing asset(s), " ++ toString r.localOnlyImages ++ " local-only image(s)" ++
    if r.rebuilt then ", rebuilt from catalog" else ""

def JobOutcome.line (o : JobOutcome) (prompt : String) : String :=
  let target := o.target.elim "-" Key.text
  match o.status with
  | .done => "done      " ++ Text.quoted prompt ++ " -> " ++ target ++ " (" ++ o.size.text ++ ")"
  | .failed message =>
    "failed    " ++ Text.quoted prompt ++ " -> " ++ target ++ ": " ++ message

structure Errand (α : Type) where
  session : Session α
  lines : List String
  /-- The jobs to wait for by their numbers, each with its prompt. -/
  awaited : List (String × Nat)
  done : Nat
  failed : Nat
  rejected : Nat

abbrev Errand.Work (α β : Type) : Type := ExceptT ServiceError (StateM (Errand α)) β

namespace Errand

variable {α : Type} [Scalar α]

def ofSession {α : Type} (session : Session α) : Errand α := ⟨session, [], [], 0, 0, 0⟩

def tell {α : Type} (line : String) : Work α Unit :=
  modify fun e => { e with lines := e.lines ++ [line] }

def perform (call : Call α) : Work α (Option CallResult) :=
  modifyGet fun e =>
    let (result, session) := e.session.perform call
    (result, { e with session })

def submit (w : Nat) (prompt : String) : Work α Unit := do
  match ← perform (.submit w prompt .checking) with
  | some (.submitted (.ok jobs)) =>
    modify fun e => { e with awaited := e.awaited ++ jobs.map fun job => (prompt, job.number) }
  | some (.submitted (.error error)) =>
    if error.isInput then
      tell ("rejected  " ++ Text.quoted prompt ++ ": " ++ error.message)
      modify fun e => { e with rejected := e.rejected + 1 }
    else throw error
  | _ => pure ()

def collect (prompt : String) (number : Nat) : Work α Unit := do
  if let some (.outcome outcome) ← perform (.awaitJob number) then
    tell (outcome.line prompt)
    modify fun e =>
      if outcome.status = .done then { e with done := e.done + 1 }
      else { e with failed := e.failed + 1 }

def conclude (w : Nat) : Work α Unit := do
  let followers ← modifyGet fun e =>
    let (tasks, session) := e.session.takeFollowers
    (tasks, { e with session })
  let _ ← perform (.awaitTasks followers)
  let _ ← perform (.flush w .scene none)
  match ← perform (.save w (.opening .scene)) with
  | some (.saved (.ok report)) =>
    let e ← get
    tell (toString e.done ++ " done, " ++ toString e.failed ++ " failed, " ++
      toString e.rejected ++ " rejected; saved " ++ toString report.saved ++ " element(s)")
    if report.skipped > 0 then tell (toString report.skipped ++ " images not yet saved")
  | some (.saved (.error error)) => throw error
  | _ => pure ()

def carryOut (i : CommandLine.Invocation α) : Work α Unit := do
  let _ ← ExceptT.mk (pure (Http.Client.connect i.settings.apiBaseUrl i.settings.token))
  let opened ← modifyGet fun e =>
    let (opened, session) := e.session.openWorkspace i.settings
    (opened, { e with session })
  tell (← ExceptT.mk (pure opened)).line
  if let some w := (← get).session.current then
    i.prompts.forM (submit w)
    (← get).awaited.forM fun (prompt, number) => collect prompt number
    conclude w
    if i.printMetrics then (← get).session.metrics.lines.forM tell

end Errand

end PromptCanvas

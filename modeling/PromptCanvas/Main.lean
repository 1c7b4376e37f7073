import PromptCanvas.Errand

set_option autoImplicit false
set_option relaxedAutoImplicit false

open PromptCanvas

def optionVariables : IO (List (String × String)) :=
  CommandLine.forms.filterMapM fun form => do
    pure ((← IO.getEnv form.envName).map fun value => (form.envName, value))

def carryOut (i : CommandLine.Invocation Float) : IO UInt32 := do
  let session := Session.ofServices (Rehearsal.ofMemory (Memory.empty 0))
  let (result, errand) := (Errand.carryOut i).run.run (Errand.ofSession session)
  errand.lines.forM fun line => IO.println line
  match result with
  | .ok () => pure 0
  | .error e =>
    IO.eprintln ("Error: " ++ e.message)
    pure 1

def main (arguments : List String) : IO UInt32 := do
  match CommandLine.parse arguments (← optionVariables) with
  | .ok invocation => carryOut invocation
  | .error .showHelp =>
    IO.println CommandLine.usage
    pure 0
  | .error .showVersion =>
    IO.println CommandLine.version
    pure 0
  | .error e =>
    IO.eprintln ("error: " ++ e.message ++ "\n\n" ++ CommandLine.usage)
    pure 2

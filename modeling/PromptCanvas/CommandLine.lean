import PromptCanvas.Settings

/-!
The command line: options, their environment variables, and the prompts to submit.

An option is given as `--name value` or `--name=value`, else by its environment variable, else it
has its default.  A value that stands in an argument of its own is looked at when the next argument
has been recognised, so that an unknown argument behind it is reported first.
-/

set_option autoImplicit false
set_option relaxedAutoImplicit false

namespace PromptCanvas.CommandLine

/-- Why a command line cannot be used, or is not to be carried out. -/
inductive UsageError where
  | missingRequired
  | unknownArgument
  | invalidValue
  | unreadableValue
  | repeated
  | unwantedValue
  | showHelp
  | showVersion
  deriving Repr, DecidableEq

def UsageError.message : UsageError → String
  | missingRequired => "the address or the workspace is missing"
  | unknownArgument => "there is an argument of no known form"
  | invalidValue => "a value is missing or is none of those allowed"
  | unreadableValue => "a value cannot be read"
  | repeated => "an option is repeated"
  | unwantedValue => "an option that takes no value is given one"
  | showHelp => "help is asked for"
  | showVersion => "the version is asked for"

inductive Opt where
  | apiBaseUrl
  | workspace
  | token
  | maxConcurrency
  | autosaveQuiet
  | autosaveSpacing
  | viewQuiet
  | directPrompt
  | defaultSize
  | streamTimeout
  deriving Repr, DecidableEq

/-- How an option is written, and the environment variable that stands in for it. -/
structure OptForm where
  opt : Opt
  name : String
  envName : String
  deriving Repr, DecidableEq

/-- The options that take a value, in the order in which their variables are looked at. -/
def forms : List OptForm :=
  [⟨.apiBaseUrl, "api-base-url", "CANVAS_API_URL"⟩,
    ⟨.workspace, "workspace", "CANVAS_WORKSPACE"⟩,
    ⟨.token, "token", "CANVAS_TOKEN"⟩,
    ⟨.maxConcurrency, "max-concurrency", "CANVAS_MAX_CONCURRENCY"⟩,
    ⟨.autosaveQuiet, "autosave-quiet-ms", "CANVAS_AUTOSAVE_QUIET_MS"⟩,
    ⟨.autosaveSpacing, "autosave-min-spacing-ms", "CANVAS_AUTOSAVE_MIN_SPACING_MS"⟩,
    ⟨.viewQuiet, "viewport-quiet-ms", "CANVAS_VIEWPORT_QUIET_MS"⟩,
    ⟨.directPrompt, "direct-prompt", "CANVAS_DIRECT_PROMPT"⟩,
    ⟨.defaultSize, "default-size", "CANVAS_DEFAULT_SIZE"⟩,
    ⟨.streamTimeout, "stream-timeout-secs", "CANVAS_STREAM_TIMEOUT_SECS"⟩]

def usage : String :=
  "Drive a canvas workspace from the command line: submit prompts, wait, save\n\n" ++
    "Usage: canvas-headless [OPTIONS] --api-base-url <API_BASE_URL> --workspace <WORKSPACE> " ++
    "[PROMPTS]...\n\nOptions:\n" ++
    String.join (forms.map fun form =>
      "      --" ++ form.name ++ " <VALUE> [env: " ++ form.envName ++ "]\n") ++
    "      --print-metrics\n  -h, --help\n  -V, --version"

def version : String := "canvas-headless 0.2.0"

def opt? (name : String) : Option Opt := (forms.find? fun form => form.name = name).map OptForm.opt

def truth? : String → Option Bool
  | "true" => some true
  | "false" => some false
  | _ => none

def number? (text : String) : Option Nat := Text.unsigned? Text.max64 text.toList

def checkValue (opt : Opt) (value : String) : Except UsageError Unit :=
  match opt with
  | .apiBaseUrl | .workspace | .token => .ok ()
  | .directPrompt => if (truth? value).isSome then .ok () else .error .invalidValue
  | .defaultSize =>
    match Size.parse value.toList with
    | .ok _ => .ok ()
    | .error _ => .error .unreadableValue
  | .maxConcurrency | .autosaveQuiet | .autosaveSpacing | .viewQuiet | .streamTimeout =>
    if (number? value).isSome then .ok () else .error .unreadableValue

structure Reading where
  values : List (Opt × String)
  printMetrics : Bool
  /-- The option read last, with its value if that has been read, before it is looked at. -/
  pending : Option (Opt × Option String)
  prompts : List String
  deriving Repr, DecidableEq

namespace Reading

def start : Reading := ⟨[], false, none, []⟩

def take (r : Reading) (opt : Opt) (value : String) : Except UsageError Reading := do
  if (r.values.lookup opt).isSome then throw .repeated
  checkValue opt value
  pure { r with values := r.values ++ [(opt, value)] }

def settle (r : Reading) : Except UsageError Reading :=
  match r.pending with
  | none => .ok r
  | some (_, none) => .error .invalidValue
  | some (opt, some value) => { r with pending := none }.take opt value

def switch (r : Reading) (name : String) (attached : Option String) :
    Except UsageError Reading := do
  if name ∈ ["print-metrics", "help", "version"] then
    if attached.isSome then throw .unwantedValue
    let r ← r.settle
    if name = "help" then throw .showHelp
    if name = "version" then throw .showVersion
    if r.printMetrics then throw .repeated
    pure { r with printMetrics := true }
  else throw .unknownArgument

def long (r : Reading) (name : String) (attached : Option String) : Except UsageError Reading := do
  match opt? name, attached with
  | some opt, some value => (← r.settle).take opt value
  | some opt, none =>
    let r ← r.settle
    pure { r with pending := some (opt, none) }
  | none, _ => r.switch name attached

def short (r : Reading) (letter : Char) : Except UsageError Reading := do
  if letter = 'h' then
    let _ ← r.settle
    throw .showHelp
  else if letter = 'V' then
    let _ ← r.settle
    throw .showVersion
  else throw .unknownArgument

/-- Reads an argument that is neither: the value of the option read last, or a prompt. -/
def word (r : Reading) (text : String) : Except UsageError Reading := do
  match r.pending with
  | some (opt, none) => pure { r with pending := some (opt, some text) }
  | _ =>
    let r ← r.settle
    pure { r with prompts := r.prompts ++ [text] }

/-- The name and the attached value of an argument behind its hyphens. -/
def splitAttached (cs : List Char) : String × Option String :=
  match cs.dropWhile (· ≠ '=') with
  | [] => (String.ofList cs, none)
  | _ :: value => (String.ofList (cs.takeWhile (· ≠ '=')), some (String.ofList value))

def argument (r : Reading) (text : String) : Except UsageError Reading :=
  match text.toList with
  | '-' :: '-' :: rest =>
    let (name, attached) := splitAttached rest
    r.long name attached
  | '-' :: letter :: _ => r.short letter
  | _ => r.word text

def arguments (r : Reading) : List String → Except UsageError Reading
  | [] => r.settle
  | "--" :: rest => do
    let r ← r.settle
    pure { r with prompts := r.prompts ++ rest }
  | text :: rest => do (← r.argument text).arguments rest

end Reading

structure Invocation (α : Type) where
  settings : Settings α
  printMetrics : Bool
  prompts : List String
  deriving Repr, DecidableEq

/-- The values of options that are not given, from their environment variables. -/
def fromEnvironment (environment : List (String × String)) (given : List (Opt × String)) :
    List OptForm → Except UsageError (List (Opt × String))
  | [] => .ok given
  | form :: rest =>
    match given.lookup form.opt, environment.lookup form.envName with
    | none, some value =>
      match checkValue form.opt value with
      | .error e => .error e
      | .ok () => fromEnvironment environment (given ++ [(form.opt, value)]) rest
    | _, _ => fromEnvironment environment given rest

def numberOr (values : List (Opt × String)) (opt : Opt) (fallback : Nat) : Nat :=
  ((values.lookup opt).bind number?).getD fallback

/-- The settings that some values make; the address and the workspace must be among them. -/
def settingsOf? {α : Type} [Scalar α] (values : List (Opt × String)) : Option (Settings α) :=
  match values.lookup .apiBaseUrl, values.lookup .workspace with
  | some apiBaseUrl, some workspace =>
    let standard : Settings α := Settings.standard
    some
      { standard with
        apiBaseUrl
        workspace
        token := values.lookup .token
        maxConcurrency := max (numberOr values .maxConcurrency standard.maxConcurrency) 1
        autosaveQuiet := numberOr values .autosaveQuiet standard.autosaveQuiet
        autosaveSpacing := numberOr values .autosaveSpacing standard.autosaveSpacing
        viewQuiet := numberOr values .viewQuiet standard.viewQuiet
        directPrompt := ((values.lookup .directPrompt).bind truth?).getD standard.directPrompt
        defaultSize :=
          ((values.lookup .defaultSize).bind fun text => (Size.parse text.toList).toOption).getD
            standard.defaultSize
        streamTimeout := 1000 * numberOr values .streamTimeout (standard.streamTimeout / 1000) }
  | _, _ => none

def parse {α : Type} [Scalar α] (arguments : List String)
    (environment : List (String × String)) : Except UsageError (Invocation α) := do
  let r ← Reading.start.arguments arguments
  let values ← fromEnvironment environment r.values forms
  match settingsOf? values with
  | none => throw .missingRequired
  | some settings => pure { settings, printMetrics := r.printMetrics, prompts := r.prompts }

end PromptCanvas.CommandLine

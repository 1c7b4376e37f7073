import PromptCanvas.Json.Value

set_option autoImplicit false
set_option relaxedAutoImplicit false

namespace PromptCanvas.Json

variable {α β : Type}

inductive Fields (α : Type) where
  | named (members : List (String × Json α))
  | listed (items : List (Json α))

abbrev FieldReader (α β : Type) := StateT (Fields α) Option β

def nextField (name : String) : FieldReader α (Option (Json α)) := fun fields =>
  match fields with
  | .named members => some (members.lookup name, .named members)
  | .listed [] => some (none, .listed [])
  | .listed (item :: rest) => some (some item, .listed rest)

def isNamed : FieldReader α Bool := fun fields =>
  match fields with
  | .named members => some (true, .named members)
  | .listed items => some (false, .listed items)

def required (name : String) (read : Json α → Option β) : FieldReader α β := do
  match ← nextField name with
  | some json => StateT.lift (read json)
  | none => failure

def defaulted (name : String) (absent : β) (read : Json α → Option β) : FieldReader α β := do
  match ← nextField name with
  | some json => StateT.lift (read json)
  | none => pure absent

def nullable (read : Json α → Option β) : Json α → Option (Option β)
  | .null => some none
  | json => (read json).map some

def optional (name : String) (read : Json α → Option β) : FieldReader α (Option β) :=
  defaulted name none (nullable read)

/-- A field that may be null, or absent from an object, but has its place in an array. -/
def placed (name : String) (read : Json α → Option β) : FieldReader α (Option β) := do
  if ← isNamed then optional name read else required name (nullable read)

def object? (reader : FieldReader α β) : Json α → Option β
  | .obj members => (reader (.named members)).map Prod.fst
  | _ => none

/-- Reads a record, written as an object or as an array of all its fields. -/
def record? (reader : FieldReader α β) : Json α → Option β
  | .obj members => (reader (.named members)).map Prod.fst
  | .arr items =>
    match reader (.listed items) with
    | some (value, .listed []) => some value
    | _ => none
  | _ => none

/-- Reads a value which, as an object, has each of its own fields once at most. -/
def once (names : List String) (read : Json α → Option β) : Json α → Option β
  | .obj members =>
    if ((members.map Prod.fst).filter (· ∈ names)).Nodup then read (.obj members) else none
  | json => read json

/-- Reads a record whose field `tag` names its kind; in an array the tag comes first. -/
def tagged? (tag : String) (kinds : List (String × FieldReader α β)) : Json α → Option β :=
  record? do
    let kind ← required tag text?
    match kinds.lookup kind with
    | some reader => reader
    | none => failure

/-- Reads the tag of an object whose other fields stand beside those of an enclosing record.  The
tag is a kind's name or its number in the list of kinds. -/
def flattened (tag : String) (kinds : List (String × FieldReader α β)) : FieldReader α β := do
  let reader ← required tag fun
    | .str kind => kinds.lookup kind
    | .int (.ofNat n) => kinds[n]?.map Prod.snd
    | _ => none
  reader

end PromptCanvas.Json

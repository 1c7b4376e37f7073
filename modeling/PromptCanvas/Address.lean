import PromptCanvas.Address.Host
import PromptCanvas.Address.Path

/-!
Addresses of services: reading, writing, and endpoints below an address.

Some characters are passed over wherever they stand, so each part of an address is cut out first
and read without them.  An endpoint is the path of the address, less a slash at its end, with the
given segments behind it.
-/

set_option autoImplicit false
set_option relaxedAutoImplicit false

namespace PromptCanvas

/-- Who is asked: credentials in their encoded form, host and port. -/
structure Authority where
  credentials : Option String
  host : Host
  port : Option Nat
  deriving Repr, DecidableEq

structure Address where
  scheme : String
  authority : Option Authority
  path : AddressPath
  query : Option String
  fragment : Option String
  deriving Repr, DecidableEq

namespace Address

open AddressPath

/-! ### Characters -/

def credentialSet (c : Char) : Bool := pathSet c || c ∈ "/:;=@[\\]^|".toList

/-- The characters that a query escapes; well-known schemes escape the apostrophe, too. -/
def querySet (special : Bool) (c : Char) : Bool := c ∈ " \"#<>".toList || (special && c = '\'')

/-! ### Schemes -/

/-- The well-known schemes with hosts, and the ports that they have by themselves. -/
def defaultPorts : List (String × Nat) :=
  [("http", 80), ("https", 443), ("ws", 80), ("wss", 443), ("ftp", 21)]

def isSpecial (scheme : String) : Bool := scheme = "file" || (defaultPorts.lookup scheme).isSome

/-- Whether a character may stand in a scheme behind its first letter. -/
def isSchemeChar (c : Char) : Bool := c.isAlphanum || c = '+' || c = '-' || c = '.'

def scheme? (cs : List Char) : Option (String × List Char) :=
  match visible (cs.takeWhile (· ≠ ':')), cs.dropWhile (· ≠ ':') with
  | c :: more, _ :: rest =>
    if c.isAlpha && more.all isSchemeChar then some (String.ofList (Text.lower (c :: more)), rest)
    else none
  | _, _ => none

/-! ### Paths -/

def isSeparator (special : Bool) (c : Char) : Bool := c = '/' || (special && c = '\\')

def readBehind (scheme : String) (path cs : List Char) : Draft :=
  AddressPath.read ⟨scheme = "file", isSeparator (isSpecial scheme), pathSet⟩ path cs

def withoutSeparator (special : Bool) (cs : List Char) : List Char :=
  match fromVisible cs with
  | [] => []
  | c :: rest => if isSeparator special c then rest else c :: rest

/-- The path behind an authority.  Well-known schemes have at least a slash. -/
def readPath (scheme : String) (cs : List Char) : Draft :=
  if isSpecial scheme || !(visible cs).isEmpty then
    readBehind scheme ['/'] (withoutSeparator (isSpecial scheme) cs)
  else ⟨[], false⟩

def finished (draft : Draft) : AddressPath := .segmented (String.ofList draft.text)

/-! ### Authorities -/

def endsAuthority (special : Bool) (c : Char) : Bool := c = '/' || c = '?' || c = '#' ||
  (special && c = '\\')

def splitCredentials? (cs : List Char) : Option (List Char × List Char) :=
  if '@' ∈ cs then
    let behind := (cs.reverse.takeWhile (· ≠ '@')).reverse
    some (cs.take (cs.length - behind.length - 1), behind)
  else none

/-- The encoded form of credentials, unless they are empty; an empty password is left out. -/
def credentials (cs : List Char) : Option String :=
  let user := Text.percentEncode credentialSet (cs.takeWhile (· ≠ ':'))
  let password := Text.percentEncode credentialSet ((cs.dropWhile (· ≠ ':')).drop 1)
  if password.isEmpty then
    if user.isEmpty then none else some (String.ofList user)
  else some (String.ofList (user ++ ':' :: password))

def splitPort (cs : List Char) (inside : Bool) : List Char × Option (List Char) :=
  match cs with
  | [] => ([], none)
  | c :: rest =>
    if c = ':' && !inside then ([], some rest)
    else
      let (host, port) :=
        splitPort rest (if c = '[' then true else if c = ']' then false else inside)
      (c :: host, port)

/-- The port written by digits; the one that the scheme has by itself is left out. -/
def parsePort (scheme : String) (cs : List Char) : Except AddressError (Option Nat) :=
  if cs.isEmpty then .ok none
  else
    match (if cs.all Char.isDigit then Host.valueIn? 10 cs else none) with
    | none => .error .invalidPort
    | some port =>
      if 65535 < port then .error .invalidPort
      else .ok (if defaultPorts.lookup scheme = some port then none else some port)

/-- Reads an authority, and the path that begins with a backslash behind its port, where the scheme
does not end an authority before one. -/
def parseAuthority (scheme : String) (cs : List Char) :
    Except AddressError (Authority × List Char) := do
  let special := isSpecial scheme
  let (login, place) := (splitCredentials? cs).getD ([], cs)
  let (hostText, portText) := splitPort place false
  let afterHost := portText.getD []
  if special && hostText.isEmpty then throw .emptyHost
  let host ← if special then Host.parseDomain hostText else Host.parseName hostText
  if hostText.isEmpty && portText.isSome then throw .emptyHost
  let port ← parsePort scheme (afterHost.takeWhile (· ≠ '\\'))
  let credentials := credentials login
  if hostText.isEmpty && credentials.isSome then throw .emptyHost
  pure (⟨credentials, host, port⟩, afterHost.dropWhile (· ≠ '\\'))

/-! ### Reading -/

/-- The parts of a text before its query, of its query, and of its fragment. -/
def splitTail (cs : List Char) : List Char × Option (List Char) × Option (List Char) :=
  let before := cs.takeWhile (· ≠ '#')
  let fragment := match cs.dropWhile (· ≠ '#') with
    | [] => none
    | _ :: rest => some rest
  let query := match before.dropWhile (· ≠ '?') with
    | [] => none
    | _ :: rest => some rest
  (before.takeWhile (· ≠ '?'), query, fragment)

/-- Reads what stands behind the two slashes of an address.  An at-sign alone is no authority where
something follows it; `tail` says that a query or a fragment does. -/
def parseHosted (scheme : String) (cs : List Char) (tail : Bool) :
    Except AddressError (Authority × AddressPath) := do
  let special := isSpecial scheme
  let place := visible (cs.takeWhile fun c => !endsAuthority special c)
  let rest := cs.dropWhile fun c => !endsAuthority special c
  if place = ['@'] && (tail || !rest.isEmpty) then throw .emptyHost
  let (authority, more) ← parseAuthority scheme place
  pure (authority, finished (readPath scheme (more ++ rest)))

def localAuthority : Authority := ⟨none, .name "", none⟩

def localFile (cs : List Char) : Authority × AddressPath :=
  (localAuthority, finished (readBehind "file" ['/'] cs))

/-- Reads a file behind two slashes.  This machine needs no name, and a drive is always on it. -/
def parseHostedFile (cs : List Char) : Except AddressError (Authority × AddressPath) := do
  let hostText := visible (cs.takeWhile fun c => !endsAuthority true c)
  let rest := cs.dropWhile fun c => !endsAuthority true c
  if isDrive hostText then pure (localFile cs)
  else if hostText.isEmpty then pure (localFile rest)
  else
    let host ← Host.parseDomain hostText
    if host = .name "localhost" then pure (localFile rest)
    else
      let draft := readPath "file" rest
      let authority := if draft.onDrive then localAuthority else ⟨none, host, none⟩
      pure (authority, finished draft)

def parseFile (cs : List Char) : Except AddressError (Authority × AddressPath) :=
  match fromVisible cs with
  | [] => .ok (localFile [])
  | a :: more =>
    match fromVisible more with
    | [] => .ok (localFile (if isSeparator true a then [] else a :: more))
    | b :: rest =>
      if isSeparator true a then
        if isSeparator true b then parseHostedFile rest else .ok (localFile more)
      else .ok (localFile (a :: more))

def parseUnknown (scheme : String) (cs : List Char) (tail : Bool) :
    Except AddressError (Option Authority × AddressPath) :=
  match fromVisible cs with
  | '/' :: more =>
    match fromVisible more with
    | '/' :: rest =>
      (parseHosted scheme rest tail).map fun (authority, path) => (some authority, path)
    | _ => .ok (none, finished (readBehind scheme ['/'] more))
  | _ => .ok (none, .whole (String.ofList (Text.percentEncode (fun _ => false) (visible cs))))

def parseBody (scheme : String) (cs : List Char) (tail : Bool) :
    Except AddressError (Option Authority × AddressPath) :=
  if scheme = "file" then (parseFile cs).map fun (authority, path) => (some authority, path)
  else if isSpecial scheme then
    let rest := cs.dropWhile fun c => isSeparator true c || isPassedOver c
    (parseHosted scheme rest tail).map fun (authority, path) => (some authority, path)
  else parseUnknown scheme cs tail

def strip (cs : List Char) : List Char :=
  let isOuter (c : Char) : Bool := c.toNat ≤ 0x20
  ((cs.dropWhile isOuter).reverse.dropWhile isOuter).reverse

def parse (text : List Char) : Except AddressError Address :=
  match scheme? (strip text) with
  | none => .error .relativeWithoutBase
  | some (scheme, rest) =>
    let (body, query, fragment) := splitTail rest
    match parseBody scheme body (query.isSome || fragment.isSome) with
    | .error e => .error e
    | .ok (authority, path) =>
      let encoded (reserved : Char → Bool) (part : Option (List Char)) : Option String :=
        part.map fun cs => String.ofList (Text.percentEncode reserved (visible cs))
      .ok
        { scheme
          authority
          path
          query := encoded (querySet (isSpecial scheme)) query
          fragment := encoded fragmentSet fragment }

/-! ### Writing -/

def authorityText (a : Authority) : String :=
  (a.credentials.elim "" fun login => login ++ "@") ++ a.host.text ++
    a.port.elim "" fun port => ":" ++ toString port

/-- The text of what stands between the scheme and the query.  A path that begins with two slashes
is kept apart from an authority. -/
def bodyText (a : Address) : String :=
  match a.authority with
  | some authority => "//" ++ authorityText authority ++ a.path.text
  | none => if a.path.text.startsWith "//" then "/." ++ a.path.text else a.path.text

def queryText (a : Address) : String := a.query.elim "" fun query => "?" ++ query

def text (a : Address) : String :=
  a.scheme ++ ":" ++ bodyText a ++ queryText a ++
    a.fragment.elim "" fun fragment => "#" ++ fragment

/-! ### Endpoints -/

def carriesPath (a : Address) : Bool :=
  match a.path with
  | .whole _ => false
  | .segmented _ => true

def endpoint (a : Address) (names : List String) : Address :=
  let path := names.foldl (push (a.scheme = "file") (isSpecial a.scheme))
    (withoutEmptyEnd a.path.text.toList)
  { a with path := .segmented (String.ofList path) }

def target (a : Address) : String := a.path.text ++ queryText a

end Address

end PromptCanvas

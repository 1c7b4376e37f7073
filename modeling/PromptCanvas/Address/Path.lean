import PromptCanvas.Text.Blank
import PromptCanvas.Text.Percent

/-!
Paths of addresses, and how segments are put behind them.

A path is kept as text that is empty or begins with a slash.  It is read segment by segment: a
segment of one point stands for the one it is in, a segment of two points takes away the one
before.  A segment that names a drive, such as `C:`, is not taken away that easily.
-/

set_option autoImplicit false
set_option relaxedAutoImplicit false

namespace PromptCanvas

inductive AddressPath where
  | whole (text : String)
  | segmented (text : String)
  deriving Repr, DecidableEq

namespace AddressPath

/-! ### Characters and segments -/

def fragmentSet (c : Char) : Bool := c ∈ " \"<>`".toList

def pathSet (c : Char) : Bool := fragmentSet c || c ∈ "#?\x7b\x7d".toList

def segmentSet (special : Bool) (c : Char) : Bool :=
  pathSet c || c = '/' || c = '%' || (special && c = '\\')

def isPassedOver (c : Char) : Bool := c = '\t' || c = '\n' || c = '\r'

def visible (cs : List Char) : List Char := cs.filter fun c => !isPassedOver c

def fromVisible (cs : List Char) : List Char := cs.dropWhile isPassedOver

def isDot (segment : List Char) : Bool :=
  Text.lower segment ∈ [".".toList, "%2e".toList]

def isDoubleDot (segment : List Char) : Bool :=
  Text.lower segment ∈ ["..".toList, "%2e.".toList, ".%2e".toList, "%2e%2e".toList]

def isDriveSign (c : Char) : Bool := c = ':' || c = '|'

def isDrive : List Char → Bool
  | [c, d] => c.isAlpha && isDriveSign d
  | _ => false

def isUsualDrive (segment : List Char) : Bool := isDrive segment && segment.getLast? = some ':'

/-- Whether a segment begins with a drive that nothing or a backslash follows. -/
def beginsWithDrive : List Char → Bool
  | c :: d :: rest => c.isAlpha && isDriveSign d && (rest.isEmpty || rest.head? = some '\\')
  | _ => false

def endsInSlash (text : List Char) : Bool := text.getLast? = some '/'

def closed (text : List Char) : List Char := if endsInSlash text then text else text ++ ['/']

def lastSegment (text : List Char) : List Char := (text.reverse.takeWhile (· ≠ '/')).reverse

/-- A text without the slash at its end, unless that is the first slash or stands behind a drive. -/
def withoutEndSlash (text : List Char) : List Char :=
  let before := text.dropLast
  if endsInSlash text && '/' ∈ before && !beginsWithDrive (lastSegment before) then before
  else text

def withoutLastSegment (file : Bool) (text : List Char) : List Char :=
  let segment := lastSegment text
  if file && isUsualDrive segment then text else text.take (text.length - segment.length)

/-! ### Reading -/

structure Reading where
  /-- Whether it is the path of a file, where a drive is told apart. -/
  file : Bool
  separates : Char → Bool
  /-- The characters that are escaped besides controls and all outside ASCII. -/
  escapes : Char → Bool

structure Draft where
  text : List Char
  onDrive : Bool
  deriving Repr, DecidableEq

/-- Writes a run of a segment behind a text; the second part is the place where the segment begins.
A run right behind the drive of a file is kept apart from it. -/
def writeRun (r : Reading) (place : List Char × Nat) (run : List Char) : List Char × Nat :=
  let encoded := Text.percentEncode r.escapes run
  if run.isEmpty then place
  else if r.file && isUsualDrive (place.1.drop 1) then (place.1 ++ '/' :: encoded, place.2 + 1)
  else (place.1 ++ encoded, place.2)

/-- Reads a segment behind a path; `more` says that a separator follows it. -/
def readSegment (r : Reading) (draft : Draft) (segment : List Char) (more : Bool) : Draft :=
  let (written, place) :=
    (Text.partsBy isPassedOver segment).foldl (writeRun r) (draft.text, draft.text.length)
  let before := written.take place
  let segment := written.drop place
  let close (text : List Char) : List Char := if more then text ++ ['/'] else text
  if isDoubleDot segment then
    let kept := withoutLastSegment r.file (withoutEndSlash before)
    { draft with text := if more then closed kept else kept }
  else if isDot segment then { draft with text := closed before }
  else if r.file && place = 1 && isDrive segment then
    ⟨close (before ++ segment.take 1 ++ [':']), true⟩
  else { draft with text := close written }

def readSegments (r : Reading) (draft : Draft) : List (List Char) → Draft
  | [] => draft
  | [segment] => readSegment r draft segment false
  | segment :: more => readSegments r (readSegment r draft segment true) more

/-- Reads the text of segments behind a path.  The path of a file has no empty segments at its
start. -/
def read (r : Reading) (path cs : List Char) : Draft :=
  let draft := readSegments r ⟨path, false⟩ (Text.partsBy r.separates cs)
  if r.file then { draft with text := '/' :: draft.text.dropWhile (· = '/') } else draft

/-! ### Segments behind a path -/

def withoutEmptyEnd (text : List Char) : List Char :=
  if 1 < text.length && endsInSlash text then text.dropLast else text

/-- A path with one more segment, unless that is one or two points.  The slash of a path without
segments is used. -/
def push (file special : Bool) (text : List Char) (name : String) : List Char :=
  if name = "." || name = ".." then text
  else
    (read ⟨file, fun _ => false, segmentSet special⟩
      (if text = ['/'] then text else text ++ ['/']) name.toList).text

def text : AddressPath → String
  | whole text => text
  | segmented text => text

example :
    (read ⟨false, (· = '/'), pathSet⟩ ['/'] "a/b/../c?/.".toList).text = "/a/c%3F/".toList := by
  decide +kernel

example : (read ⟨true, (· = '/'), pathSet⟩ ['/'] "C|/a/../..".toList).text = "/C:/".toList := by
  decide +kernel

example : push false true "/base".toList "a/b" = "/base/a%2Fb".toList := by decide +kernel

example : push false true "/base".toList ".." = "/base".toList := by decide +kernel

end AddressPath

end PromptCanvas

import PromptCanvas.Json.Reader
import PromptCanvas.Text.Blank
import PromptCanvas.Text.Utf8

set_option autoImplicit false
set_option relaxedAutoImplicit false

namespace PromptCanvas.EventStream

inductive Frame where
  /-- It holds nothing: a comment, an empty payload, or the closing mark. -/
  | silent
  | payload (json : Json Float)
  | malformed

def Frame.payload? : Frame → Option (Json Float)
  | .payload json => some json
  | .silent | .malformed => none

/-- The lines of a text; a line break at the end opens no further line. -/
def linesFrom (line : List Char) : List Char → List (List Char)
  | [] => if line.isEmpty then [] else [line.reverse]
  | '\n' :: rest => line.reverse :: linesFrom [] rest
  | c :: rest => linesFrom (c :: line) rest

def lines (cs : List Char) : List (List Char) := linesFrom [] cs

def dataMark : List Char := "data:".toList

def dataOfLine? (line : List Char) : Option (List Char) :=
  if dataMark.isPrefixOf line then some (Text.trimStart (line.drop dataMark.length)) else none

/-- The payload of an event as text: its data lines, one below the other. -/
def dataText (event : List Char) : List Char :=
  Text.trim (['\n'].intercalate ((lines event).filterMap dataOfLine?))

def doneMark : List Char := "[DONE]".toList

def frameOf (event : List UInt8) : Frame :=
  let data := dataText (Text.decodeUtf8 event)
  if data.isEmpty || data = doneMark then .silent
  else
    match Json.ofChars? data with
    | some json => .payload json
    | none => .malformed

def lineFeed : UInt8 := 10

def carriageReturn : UInt8 := 13

def stripReturns (bytes : List UInt8) : List UInt8 := bytes.filter (· ≠ carriageReturn)

/-- Cuts bytes at blank lines, from the left: the events that are complete, and the rest.  `event`
holds the bytes of the event under way, reversed. -/
def cutFrom (event : List UInt8) : List UInt8 → List (List UInt8) × List UInt8
  | [] => ([], event.reverse)
  | [b] => ([], (b :: event).reverse)
  | b :: c :: rest =>
    if b = lineFeed ∧ c = lineFeed then
      let (events, tail) := cutFrom [] rest
      (event.reverse :: events, tail)
    else cutFrom (b :: event) (c :: rest)

/-- Cuts bytes at blank lines: the events that are complete, and the rest. -/
def cut (bytes : List UInt8) : List (List UInt8) × List UInt8 := cutFrom [] bytes

structure Decoder where
  pending : List UInt8
  deriving Repr, DecidableEq

namespace Decoder

def start : Decoder := ⟨[]⟩

def feed (d : Decoder) (chunk : List UInt8) : List Frame × Decoder :=
  let (events, pending) := cut (d.pending ++ stripReturns chunk)
  (events.map frameOf, ⟨pending⟩)

def push (d : Decoder) (chunk : List UInt8) : List (Json Float) × Decoder :=
  let (frames, d) := d.feed chunk
  (frames.filterMap Frame.payload?, d)

/-- Ends the stream; answers with the payload of an event that no blank line ended. -/
def finish (d : Decoder) : Option (Json Float) × Decoder := ((frameOf d.pending).payload?, start)

end Decoder

end PromptCanvas.EventStream

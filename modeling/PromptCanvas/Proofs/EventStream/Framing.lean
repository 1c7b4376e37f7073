import PromptCanvas.Proofs.EventStream.Chunks
import PromptCanvas.Proofs.Text.Trim
import PromptCanvas.Proofs.Text.Utf8

/-!
What is sent as events arrives.

A stream is given here as its sender has it: events made of lines, each line with an end of its
own.  Behind the cuts of the decoder stand exactly these events, and of each it reads the text of
the data lines; so it brings those whose text is JSON, in their order, and passes over the others.
-/

set_option autoImplicit false
set_option relaxedAutoImplicit false

namespace PromptCanvas.EventStream

open Text (decodeUtf8 encodeUtf8 charOf IsPlain)

/-- How a line ends. -/
inductive LineEnd where
  | feed
  | returnFeed
  deriving Repr, DecidableEq

def LineEnd.bytes : LineEnd → List UInt8
  | .feed => [lineFeed]
  | .returnFeed => [carriageReturn, lineFeed]

/-- A line that is not blank. -/
structure Line where
  text : List UInt8
  ending : LineEnd
  filled : text ≠ []
  unbroken : lineFeed ∉ text ∧ carriageReturn ∉ text

def dataBytes : List UInt8 := [0x64, 0x61, 0x74, 0x61, 0x3A]

namespace Line

def bytes (l : Line) : List UInt8 := l.text ++ l.ending.bytes

/-- What stands behind `data:`, if the line begins with that. -/
def data? (l : Line) : Option (List UInt8) :=
  if dataBytes.isPrefixOf l.text then some (l.text.drop dataBytes.length) else none

end Line

/-- Lines up to a blank one. -/
structure Event where
  lines : List Line
  ending : LineEnd
  filled : lines ≠ []

namespace Event

def bytes (e : Event) : List UInt8 := e.lines.flatMap Line.bytes ++ e.ending.bytes

/-- The data of an event: its data lines, without the white space in front of them, one below the
other, without the white space around them. -/
def data (e : Event) : List Char :=
  Text.trim (['\n'].intercalate
    ((e.lines.filterMap Line.data?).map fun data => Text.trimStart (decodeUtf8 data)))

/-- An event that brings nothing. -/
inductive IsNoise (e : Event) : Prop
  | comment : (∀ l ∈ e.lines, l.data? = none) → e.IsNoise
  | done : e.data = doneMark → e.IsNoise
  | empty : e.data = [] → e.IsNoise
  | malformed : Json.ofChars? e.data = none → e.IsNoise

def body (e : Event) : List UInt8 := [lineFeed].intercalate (e.lines.map Line.text)

end Event

section Cutting

variable {lines : List (List UInt8)} {line rest : List UInt8}

private theorem flatMap_concat_eq {lines : List (List UInt8)} (some : lines ≠ []) (b : UInt8) :
    lines.flatMap (· ++ [b]) = [b].intercalate lines ++ [b] := by
  induction lines with
  | nil => exact absurd rfl some
  | cons line lines ih =>
    cases lines with
    | nil => simp
    | cons next lines =>
      rw [List.flatMap_cons, ih (List.cons_ne_nil next lines), List.intercalate_cons_cons]
      simp

private theorem blankLine_infix_of_append (unbroken : lineFeed ∉ line)
    (within : blankLine <:+: line ++ rest) : blankLine <:+: rest := by
  induction line with
  | nil => exact within
  | cons b line ih =>
    rw [List.mem_cons, not_or] at unbroken
    rcases List.infix_cons_iff.mp within with here | later
    · exact absurd (List.cons_prefix_cons.mp here).1 unbroken.1
    · exact ih unbroken.2 later

private theorem not_blankLine_infix_lines (filled : ∀ l ∈ lines, l ≠ [])
    (unbroken : ∀ l ∈ lines, lineFeed ∉ l) : ¬ blankLine <:+: lines.flatMap (· ++ [lineFeed]) := by
  induction lines with
  | nil => exact not_blankLine_infix_of_length Nat.zero_lt_two
  | cons line lines ih =>
    obtain ⟨-, filled⟩ := List.forall_mem_cons.mp filled
    obtain ⟨whole, unbroken⟩ := List.forall_mem_cons.mp unbroken
    intro within
    rw [List.flatMap_cons, List.append_assoc] at within
    rcases List.infix_cons_iff.mp (blankLine_infix_of_append whole within) with here | later
    · have second : [lineFeed] <+: lines.flatMap (· ++ [lineFeed]) :=
        (List.cons_prefix_cons.mp here).2
      cases lines with
      | nil => cases List.prefix_nil.mp second
      | cons next lines =>
        cases next with
        | nil => exact filled [] List.mem_cons_self rfl
        | cons b next =>
          obtain rfl : lineFeed = b := (List.cons_prefix_cons.mp second).1
          exact unbroken _ List.mem_cons_self List.mem_cons_self
    · exact ih filled unbroken later

private theorem stripReturns_of_notMem (unbroken : carriageReturn ∉ line) :
    stripReturns line = line := by
  refine List.filter_eq_self.mpr fun b mem => decide_eq_true ?_
  rintro rfl
  exact unbroken mem

private theorem stripReturns_append (front back : List UInt8) :
    stripReturns (front ++ back) = stripReturns front ++ stripReturns back :=
  List.filter_append front back

private theorem stripReturns_ending (ending : LineEnd) :
    stripReturns ending.bytes = [lineFeed] := by
  cases ending <;> rfl

private theorem stripReturns_lines (lines : List Line) :
    stripReturns (lines.flatMap Line.bytes) = (lines.map Line.text).flatMap (· ++ [lineFeed]) := by
  induction lines with
  | nil => rfl
  | cons l lines ih =>
    rw [List.flatMap_cons, stripReturns_append, ih, Line.bytes, stripReturns_append,
      stripReturns_of_notMem l.unbroken.2, stripReturns_ending]
    rfl

namespace Event

private theorem texts_ne_nil (e : Event) : e.lines.map Line.text ≠ [] :=
  fun empty => e.filled (List.map_eq_nil_iff.mp empty)

private theorem stripReturns_bytes (e : Event) : stripReturns e.bytes = e.body ++ blankLine := by
  rw [bytes, stripReturns_append, stripReturns_lines, stripReturns_ending,
    flatMap_concat_eq e.texts_ne_nil, List.append_assoc]
  rfl

private theorem not_blankLine_infix_body (e : Event) : ¬ blankLine <:+: e.body ++ [lineFeed] := by
  rw [body, ← flatMap_concat_eq e.texts_ne_nil]
  apply not_blankLine_infix_lines
  · intro text mem
    obtain ⟨l, -, rfl⟩ := List.mem_map.mp mem
    exact l.filled
  · intro text mem
    obtain ⟨l, -, rfl⟩ := List.mem_map.mp mem
    exact l.unbroken.1

private theorem cuts_stripReturns (events : List Event) {tail : List UInt8}
    (open' : ¬ blankLine <:+: tail) :
    Cuts (stripReturns (events.flatMap bytes) ++ tail) (events.map body) tail := by
  induction events with
  | nil => exact .rest open'
  | cons e events ih =>
    rw [List.flatMap_cons, stripReturns_append, stripReturns_bytes, List.append_assoc,
      List.append_assoc]
    exact .event e.not_blankLine_infix_body ih

end Event

end Cutting

section Reading

private theorem linesFrom_break {line : List Char} (unbroken : '\n' ∉ line) (acc rest : List Char) :
    linesFrom acc (line ++ '\n' :: rest) = (acc.reverse ++ line) :: linesFrom [] rest := by
  induction line generalizing acc with
  | nil => simp [linesFrom]
  | cons c line ih =>
    rw [List.mem_cons, not_or] at unbroken
    rw [List.cons_append, linesFrom.eq_3 _ _ _ (Ne.symm unbroken.1), ih unbroken.2]
    simp

private theorem linesFrom_end {line : List Char} (unbroken : '\n' ∉ line) {acc : List Char}
    (filled : acc ≠ [] ∨ line ≠ []) : linesFrom acc line = [acc.reverse ++ line] := by
  induction line generalizing acc with
  | nil => simp [linesFrom, filled.resolve_right fun some => some rfl]
  | cons c line ih =>
    rw [List.mem_cons, not_or] at unbroken
    rw [linesFrom.eq_3 _ _ _ (Ne.symm unbroken.1), ih unbroken.2 (.inl (List.cons_ne_nil c acc))]
    simp

private theorem lines_intercalate (pieces : List (List Char)) (some : pieces ≠ [])
    (filled : ∀ l ∈ pieces, l ≠ []) (unbroken : ∀ l ∈ pieces, '\n' ∉ l) :
    lines (['\n'].intercalate pieces) = pieces ∧
      lines (['\n'].intercalate pieces ++ ['\n']) = pieces := by
  induction pieces with
  | nil => exact absurd rfl some
  | cons line pieces ih =>
    obtain ⟨here, filled⟩ := List.forall_mem_cons.mp filled
    obtain ⟨whole, unbroken⟩ := List.forall_mem_cons.mp unbroken
    cases pieces with
    | nil =>
      rw [List.intercalate_singleton]
      exact ⟨linesFrom_end whole (.inr here), linesFrom_break whole [] []⟩
    | cons next pieces =>
      obtain ⟨closed, ended⟩ := ih (List.cons_ne_nil next pieces) filled unbroken
      rw [List.intercalate_cons_cons, List.append_assoc, List.append_assoc, List.singleton_append]
      constructor
      · rw [lines, linesFrom_break whole, ← lines, closed]
        rfl
      · rw [lines, List.cons_append, linesFrom_break whole, ← lines, ended]
        rfl

private theorem decodeUtf8_intercalate (texts : List (List UInt8)) :
    decodeUtf8 ([lineFeed].intercalate texts) = ['\n'].intercalate (texts.map decodeUtf8) := by
  induction texts with
  | nil => rfl
  | cons text texts ih =>
    cases texts with
    | nil => simp
    | cons next texts =>
      have small : lineFeed.toNat < 0x80 := by decide
      rw [List.intercalate_cons_cons, List.append_assoc, List.singleton_append,
        Text.decodeUtf8_append_cons small, ih, List.map_cons, List.map_cons, List.map_cons,
        List.intercalate_cons_cons, List.append_assoc]
      rfl

private theorem payloadOf?_eq (event : List UInt8) :
    payloadOf? event = Json.ofChars? (dataText (decodeUtf8 event)) := by
  have empty : Json.ofChars? [] = none := rfl
  have done : Json.ofChars? doneMark = none := rfl
  rw [payloadOf?, frameOf]
  generalize dataText (decodeUtf8 event) = data
  split
  · rename_i silent
    have known : data = [] ∨ data = doneMark := by simpa using silent
    rcases known with rfl | rfl
    · exact empty.symm
    · exact done.symm
  · cases Json.ofChars? data <;> rfl

private theorem plain_dataBytes : ∀ b ∈ dataBytes, IsPlain b := by
  have all : dataBytes.all (IsPlain ·) = true := rfl
  exact fun b mem => of_decide_eq_true (List.all_eq_true.mp all b mem)

private theorem dataOfLine?_decodeUtf8 (l : Line) :
    dataOfLine? (decodeUtf8 l.text) = l.data?.map fun data => Text.trimStart (decodeUtf8 data) := by
  have mark : dataBytes.map charOf = dataMark := rfl
  have starts := Text.isPrefixOf_decodeUtf8 plain_dataBytes l.text
  rw [mark] at starts
  rw [dataOfLine?, starts, Line.data?]
  split
  · rename_i begins
    obtain ⟨data, same⟩ := List.isPrefixOf_iff_prefix.mp begins
    rw [← same, Text.decodeUtf8_append_of_plain plain_dataBytes, mark]
    rfl
  · rfl

namespace Event

private theorem dataText_body (e : Event) :
    dataText (decodeUtf8 e.body) = e.data ∧
      dataText (decodeUtf8 (e.body ++ [lineFeed])) = e.data := by
  have read : decodeUtf8 e.body = ['\n'].intercalate (e.lines.map fun l => decodeUtf8 l.text) := by
    rw [body, decodeUtf8_intercalate, List.map_map]
    rfl
  have ended : decodeUtf8 (e.body ++ [lineFeed]) = decodeUtf8 e.body ++ ['\n'] :=
    Text.decodeUtf8_append_cons (by decide) e.body []
  have lines := lines_intercalate (e.lines.map fun l => decodeUtf8 l.text)
    (fun empty => e.filled (List.map_eq_nil_iff.mp empty)) ?_ ?_
  · have data : (e.lines.map fun l => decodeUtf8 l.text).filterMap dataOfLine? =
        (e.lines.filterMap Line.data?).map fun data => Text.trimStart (decodeUtf8 data) := by
      rw [List.filterMap_map, List.map_filterMap]
      exact congrArg (List.filterMap · e.lines) (funext dataOfLine?_decodeUtf8)
    rw [ended, read, dataText, dataText, lines.1, lines.2, data]
    exact ⟨rfl, rfl⟩
  · intro text mem
    obtain ⟨l, -, rfl⟩ := List.mem_map.mp mem
    exact fun empty => l.filled (Text.decodeUtf8_eq_nil.mp empty)
  · intro text mem
    obtain ⟨l, -, rfl⟩ := List.mem_map.mp mem
    have plain : IsPlain lineFeed := by decide
    exact fun broken => l.unbroken.1 ((Text.charOf_mem_decodeUtf8 plain).mp broken)

private theorem payloadOf?_body (e : Event) :
    payloadOf? e.body = Json.ofChars? e.data ∧
      payloadOf? (e.body ++ [lineFeed]) = Json.ofChars? e.data := by
  rw [payloadOf?_eq, payloadOf?_eq, e.dataText_body.1, e.dataText_body.2]
  exact ⟨rfl, rfl⟩

private theorem stripReturns_of_unended {e : Event} {arrived missing : List UInt8}
    (same : arrived ++ missing = e.bytes) (some : missing ≠ [])
    (breaks : ∀ b ∈ missing, b = lineFeed ∨ b = carriageReturn) :
    stripReturns arrived = e.body ∨ stripReturns arrived = e.body ++ [lineFeed] := by
  have feeds : ∀ b ∈ stripReturns missing, b = lineFeed := by
    intro b mem
    obtain ⟨mem, counts⟩ := List.mem_filter.mp mem
    exact (breaks b mem).resolve_right (of_decide_eq_true counts)
  have last : missing.getLast some = lineFeed := by
    have ends : e.bytes.getLast? = lineFeed := by
      rw [bytes, List.getLast?_append]
      cases e.ending <;> rfl
    have both := congrArg List.getLast? same
    rw [List.getLast?_append, ends, List.getLast?_eq_some_getLast some] at both
    exact Option.some.inj both
  have left : lineFeed ∈ stripReturns missing :=
    List.mem_filter.mpr ⟨last ▸ List.getLast_mem some, rfl⟩
  have stripped : stripReturns arrived ++ stripReturns missing = e.body ++ blankLine := by
    rw [← stripReturns_append, same, stripReturns_bytes]
  rcases List.append_eq_append_iff.mp stripped with ⟨more, body, rest⟩ | ⟨more, arrived, rest⟩
  · rcases List.eq_nil_or_concat more with rfl | ⟨front, b, rfl⟩
    · exact .inl (by rw [body, List.append_nil])
    · rw [List.concat_eq_append] at body rest
      obtain rfl : b = lineFeed := feeds b (by rw [rest]; simp)
      refine absurd ⟨stripReturns arrived ++ front, [], ?_⟩ e.not_blankLine_infix_body
      rw [body]
      simp [blankLine]
  · rcases more with _ | ⟨b, _ | ⟨c, more⟩⟩
    · exact .inl (by rw [arrived, List.append_nil])
    · obtain rfl : lineFeed = b := (List.cons.inj rest).1
      exact .inr arrived
    · have none : [] = more ++ stripReturns missing := (List.cons.inj (List.cons.inj rest).2).2
      rw [(List.append_eq_nil_iff.mp none.symm).2] at left
      cases left

end Event

end Reading

/-- A line that holds no data. -/
structure Note extends Line where
  idle : toLine.data? = none

/-- A JSON text on its way: as the one data line of an event, behind any number of spaces. -/
structure Message where
  text : String
  json : Json Float
  accepted : Json.parse? text = some json
  unbroken : '\n' ∉ text.toList ∧ '\r' ∉ text.toList
  first : text.toList.head?.any Text.isBlank = false
  last : text.toList.getLast?.any Text.isBlank = false
  spaces : Nat
  before : List Note
  lineEnding : LineEnd
  after : List Note
  ending : LineEnd

namespace Message

def payload (m : Message) : List UInt8 := List.replicate m.spaces 0x20 ++ encodeUtf8 m.text

private theorem notMem_payload {m : Message} {b : UInt8} (plain : IsPlain b) (space : b ≠ 0x20)
    (absent : charOf b ∉ m.text.toList) : b ∉ m.payload := by
  rw [payload, List.mem_append, not_or]
  refine ⟨fun mem => space (List.eq_of_mem_replicate mem), fun mem => absent ?_⟩
  rw [← Text.decodeUtf8_encodeUtf8]
  exact (Text.charOf_mem_decodeUtf8 plain).mpr mem

def line (m : Message) : Line where
  text := dataBytes ++ m.payload
  ending := m.lineEnding
  filled := nofun
  unbroken := by
    have feed : lineFeed ∉ m.payload :=
      notMem_payload (by decide) (by decide) m.unbroken.1
    have carriage : carriageReturn ∉ m.payload :=
      notMem_payload (by decide) (by decide) m.unbroken.2
    simpa [dataBytes, lineFeed, carriageReturn] using And.intro feed carriage

def event (m : Message) : Event where
  lines := m.before.map Note.toLine ++ m.line :: m.after.map Note.toLine
  ending := m.ending
  filled := by simp

private theorem decodeUtf8_payload (m : Message) :
    decodeUtf8 m.payload = List.replicate m.spaces ' ' ++ m.text.toList := by
  have plain : ∀ b ∈ List.replicate m.spaces (0x20 : UInt8), IsPlain b := by
    intro b mem
    rw [List.eq_of_mem_replicate mem]
    decide
  rw [payload, Text.decodeUtf8_append_of_plain plain, List.map_replicate,
    Text.decodeUtf8_encodeUtf8]
  rfl

private theorem data?_line (m : Message) : m.line.data? = some m.payload := by
  have begins : dataBytes.isPrefixOf (dataBytes ++ m.payload) = true :=
    List.isPrefixOf_iff_prefix.mpr (List.prefix_append _ _)
  rw [Line.data?, line, if_pos begins, List.drop_left]

private theorem data_event (m : Message) : m.event.data = m.text.toList := by
  have idle : ∀ notes : List Note, (notes.map Note.toLine).filterMap Line.data? = [] := by
    intro notes
    refine List.filterMap_eq_nil_iff.mpr fun l mem => ?_
    obtain ⟨note, -, rfl⟩ := List.mem_map.mp mem
    exact note.idle
  have own : m.event.lines.filterMap Line.data? = [m.payload] := by
    rw [event, List.filterMap_append, List.filterMap_cons, m.data?_line, idle, idle]
    rfl
  have spaces : ∀ c ∈ List.replicate m.spaces ' ', Text.isBlank c = true := by
    intro c mem
    rw [List.eq_of_mem_replicate mem]
    decide
  rw [Event.data, own, List.map_singleton, List.intercalate_singleton, decodeUtf8_payload,
    Text.trimStart_append spaces, Text.trimStart_eq_self m.first, Text.trim_eq_self m.first m.last]

end Message

/-- What is sent on a stream. -/
inductive Item where
  | message (m : Message)
  | noise (e : Event) (idle : e.IsNoise)

namespace Item

def event : Item → Event
  | message m => m.event
  | noise e _ => e

def json? : Item → Option (Json Float)
  | message m => some m.json
  | noise _ _ => none

private theorem ofChars?_data_event (i : Item) : Json.ofChars? i.event.data = i.json? := by
  cases i with
  | message m => exact (congrArg Json.ofChars? m.data_event).trans m.accepted
  | noise e idle =>
    have read : ∀ {data : List Char}, e.data = data → Json.ofChars? data = none →
        Json.ofChars? e.data = none := fun same none => (congrArg _ same).trans none
    cases idle with
    | comment idle =>
      have empty : e.data = [] := by
        rw [Event.data, List.filterMap_eq_nil_iff.mpr idle]
        rfl
      exact read empty rfl
    | done same => exact read same rfl
    | empty same => exact read same rfl
    | malformed none => exact none

end Item

def wire (items : List Item) : List UInt8 := items.flatMap fun i => i.event.bytes

/-- A stream brings the messages that were sent, in their order, each once, and ends with nothing
more, whatever is between them and however its bytes are cut into chunks.  One more message whose
last line breaks are missing is brought by the end. -/
theorem messages_arrive (items : List Item) :
    (∀ chunks : List (List UInt8), chunks.flatten = wire items →
      Decoder.decode chunks = ⟨items.filterMap Item.json?, none, none⟩) ∧
    ∀ (m : Message) (arrived missing : List UInt8), arrived ++ missing = m.event.bytes →
      missing ≠ [] → (∀ b ∈ missing, b = lineFeed ∨ b = carriageReturn) →
      ∀ chunks : List (List UInt8), chunks.flatten = wire items ++ arrived →
        Decoder.decode chunks = ⟨items.filterMap Item.json?, some m.json, none⟩ := by
  have sent : ((items.map Item.event).map Event.body).filterMap payloadOf? =
      items.filterMap Item.json? := by
    rw [List.filterMap_map, List.filterMap_map]
    refine congrArg (List.filterMap · items) (funext fun i => ?_)
    exact i.event.payloadOf?_body.1.trans i.ofChars?_data_event
  have cuts : ∀ tail : List UInt8, ¬ blankLine <:+: tail →
      Cuts (stripReturns (wire items) ++ tail) ((items.map Item.event).map Event.body) tail := by
    intro tail unended
    have cuts := Event.cuts_stripReturns (items.map Item.event) unended
    rwa [List.flatMap_map] at cuts
  constructor
  · intro chunks arrives
    have cuts := cuts [] (not_blankLine_infix_of_length Nat.zero_lt_two)
    rw [List.append_nil, ← arrives] at cuts
    rw [Decoder.decode_of_cuts cuts, sent]
    rfl
  · intro m arrived missing whole some breaks chunks arrives
    have unended := m.event.not_blankLine_infix_body
    have json : Json.ofChars? m.event.data = m.json := (Item.message m).ofChars?_data_event
    have tail := m.event.payloadOf?_body
    rw [json] at tail
    rcases Event.stripReturns_of_unended whole some breaks with body | body
    · have cuts := cuts m.event.body fun within =>
        unended (within.trans (List.prefix_append _ _).isInfix)
      rw [← body, ← stripReturns_append, ← arrives, body] at cuts
      rw [Decoder.decode_of_cuts cuts, sent, tail.1]
    · have cuts := cuts _ unended
      rw [← body, ← stripReturns_append, ← arrives, body] at cuts
      rw [Decoder.decode_of_cuts cuts, sent, tail.2]

section Sample

def bytesOf (text : String) : List UInt8 := text.toUTF8.data.toList

/-- A message between two other lines, with carriage returns. -/
def painted : Message where
  text := "\"é\""
  json := .str "é"
  accepted := rfl
  unbroken := by decide
  first := rfl
  last := rfl
  spaces := 2
  before := [⟨⟨bytesOf "event: run", .returnFeed, by decide, by decide⟩, rfl⟩]
  lineEnding := .returnFeed
  after := [⟨⟨bytesOf "id: 7", .feed, by decide, by decide⟩, rfl⟩]
  ending := .returnFeed

def faded : Message where
  text := "false"
  json := .bool false
  accepted := rfl
  unbroken := by decide
  first := rfl
  last := rfl
  spaces := 0
  before := []
  lineEnding := .feed
  after := []
  ending := .feed

def oneLine (text : List UInt8) (filled : text ≠ [])
    (unbroken : lineFeed ∉ text ∧ carriageReturn ∉ text) : Event :=
  ⟨[⟨text, .feed, filled, unbroken⟩], .feed, List.cons_ne_nil _ _⟩

def painting : List Item :=
  [.noise (oneLine (bytesOf ": awake") (by decide) (by decide)) (.comment (by decide)),
    .message painted,
    .noise (oneLine (bytesOf "data:") (by decide) (by decide)) (.empty rfl),
    .noise (oneLine (bytesOf "data: soon") (by decide) (by decide)) (.malformed rfl),
    .message faded,
    .noise (oneLine (bytesOf "data: [DONE]") (by decide) (by decide)) (.done rfl)]

theorem painting_arrives :
    let arrived := faded.event.lines.flatMap Line.bytes
    arrived ++ [lineFeed] = faded.event.bytes ∧
      Decoder.decode ((wire painting).map fun b => [b]) = ⟨[.str "é", .bool false], none, none⟩ ∧
      Decoder.decode ((wire painting ++ arrived).map fun b => [b]) =
        ⟨[.str "é", .bool false], some (.bool false), none⟩ := by
  intro arrived
  have pieces : ∀ bytes : List UInt8, (bytes.map fun b => [b]).flatten = bytes := by
    intro bytes
    rw [← List.flatMap_def, List.flatMap_singleton']
  have breaks : ∀ b ∈ [lineFeed], b = lineFeed ∨ b = carriageReturn :=
    fun b mem => .inl (List.mem_singleton.mp mem)
  obtain ⟨closed, unended⟩ := messages_arrive painting
  exact ⟨rfl, closed _ (pieces _),
    unended faded arrived [lineFeed] rfl (List.cons_ne_nil _ _) breaks _ (pieces _)⟩

end Sample

end PromptCanvas.EventStream

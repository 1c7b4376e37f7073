import PromptCanvas.EventStream

set_option autoImplicit false
set_option relaxedAutoImplicit false

namespace PromptCanvas.EventStream

def blankLine : List UInt8 := [lineFeed, lineFeed]

/-- Bytes cut at their blank lines from the left: the events that are complete, and the rest.  No
blank line begins within an event, and none is in the rest. -/
inductive Cuts : List UInt8 → List (List UInt8) → List UInt8 → Prop
  | rest {tail : List UInt8} : ¬ blankLine <:+: tail → Cuts tail [] tail
  | event {event more tail : List UInt8} {events : List (List UInt8)} :
      ¬ blankLine <:+: event ++ [lineFeed] → Cuts more events tail →
      Cuts (event ++ (blankLine ++ more)) (event :: events) tail

def payloadOf? (event : List UInt8) : Option (Json Float) := (frameOf event).payload?

/-- What a decoder brings: the payloads of the chunks, that of the end, and that of a second end. -/
structure Decoded where
  pushed : List (Json Float)
  finished : Option (Json Float)
  finishedAgain : Option (Json Float)

namespace Decoder

/-- Takes chunks one after the other; answers with all payloads that they complete. -/
def pushAll (d : Decoder) : List (List UInt8) → List (Json Float) × Decoder
  | [] => ([], d)
  | chunk :: chunks =>
    let (payloads, d) := d.push chunk
    let (more, d) := d.pushAll chunks
    (payloads ++ more, d)

/-- Decodes a stream that arrives in chunks, and ends it twice. -/
def decode (chunks : List (List UInt8)) : Decoded :=
  let (pushed, d) := start.pushAll chunks
  let (finished, d) := d.finish
  ⟨pushed, finished, d.finish.1⟩

end Decoder

section BlankLine

variable {b c : UInt8} {bytes : List UInt8}

private theorem blankLine_suffix_iff :
    blankLine <:+ bytes ++ [b, c] ↔ b = lineFeed ∧ c = lineFeed := by
  constructor
  · rintro ⟨front, same⟩
    obtain ⟨-, ends⟩ := List.append_inj' same rfl
    simpa [blankLine, eq_comm] using ends
  · rintro ⟨rfl, rfl⟩
    exact List.suffix_append bytes blankLine

private theorem blankLine_infix_iff :
    blankLine <:+: bytes ++ [b, c] ↔
      b = lineFeed ∧ c = lineFeed ∨ blankLine <:+: bytes ++ [b] := by
  have split : bytes ++ [b, c] = (bytes ++ [b]) ++ [c] := by simp
  rw [← blankLine_suffix_iff, split, List.infix_concat_iff]

theorem not_blankLine_infix_of_length (short : bytes.length < 2) : ¬ blankLine <:+: bytes := by
  intro within
  have length : 2 ≤ bytes.length := within.length_le
  omega

private theorem not_blankLine_infix_take (bytes : List UInt8) : ¬ blankLine <:+: bytes.take 1 :=
  not_blankLine_infix_of_length (Nat.lt_succ_of_le (List.length_take_le 1 bytes))

end BlankLine

section Cut

variable {bytes more tail event acc : List UInt8} {events : List (List UInt8)}

private theorem cuts_cutFrom (acc bytes : List UInt8)
    (seen : ¬ blankLine <:+: acc.reverse ++ bytes.take 1) :
    Cuts (acc.reverse ++ bytes) (cutFrom acc bytes).1 (cutFrom acc bytes).2 := by
  fun_induction cutFrom acc bytes with
  | case1 acc =>
    rw [List.append_nil]
    exact .rest (by simpa using seen)
  | case2 acc b =>
    rw [List.reverse_cons]
    exact .rest seen
  | case3 acc b c rest both events tail cutRest ih =>
    obtain ⟨rfl, rfl⟩ := both
    have later := ih (not_blankLine_infix_take rest)
    rw [cutRest] at later
    exact .event seen later
  | case4 acc b c rest apart ih =>
    have next : ¬ blankLine <:+: (b :: acc).reverse ++ (c :: rest).take 1 := by
      simpa [blankLine_infix_iff, apart] using seen
    simpa using ih next

private theorem cuts_cut (bytes : List UInt8) : Cuts bytes (cut bytes).1 (cut bytes).2 :=
  cuts_cutFrom [] bytes (not_blankLine_infix_take bytes)

private theorem cutFrom_of_rest (acc : List UInt8) (none : ¬ blankLine <:+: tail) :
    cutFrom acc tail = ([], acc.reverse ++ tail) := by
  fun_induction cutFrom acc tail with
  | case1 acc => simp
  | case2 acc b => simp
  | case3 acc b c rest both =>
    obtain ⟨rfl, rfl⟩ := both
    exact absurd (List.prefix_append blankLine rest).isInfix none
  | case4 acc b c rest apart ih =>
    have shorter : ¬ blankLine <:+: c :: rest :=
      fun within => none (within.trans ⟨[b], [], by simp⟩)
    rw [ih shorter]
    simp

private theorem cutFrom_of_event (acc : List UInt8)
    (within : ¬ blankLine <:+: event ++ [lineFeed]) :
    cutFrom acc (event ++ (blankLine ++ more)) =
      ((acc.reverse ++ event) :: (cut more).1, (cut more).2) := by
  induction event generalizing acc with
  | nil => simp [blankLine, cutFrom, cut]
  | cons b event ih =>
    have shorter : ¬ blankLine <:+: event ++ [lineFeed] := by
      intro found
      exact within (found.trans ⟨[b], [], by simp⟩)
    have goOn := ih (b :: acc) shorter
    -- The next byte is one of the event, or the first line feed of the blank line.
    cases event with
    | nil =>
      have apart : b ≠ lineFeed := by
        rintro rfl
        exact within (List.infix_refl blankLine)
      simpa [blankLine, cutFrom, apart] using goOn
    | cons c event =>
      have apart : ¬ (b = lineFeed ∧ c = lineFeed) := by
        rintro ⟨rfl, rfl⟩
        exact within (List.prefix_append blankLine _).isInfix
      simpa [cutFrom, apart] using goOn

private theorem Cuts.rest_free (h : Cuts bytes events tail) : ¬ blankLine <:+: tail := by
  induction h with
  | rest none => exact none
  | event _ _ ih => exact ih

private theorem Cuts.cut_eq (h : Cuts bytes events tail) : cut bytes = (events, tail) := by
  induction h with
  | rest none => exact cutFrom_of_rest [] none
  | event within _ ih => rw [cut, cutFrom_of_event [] within, ih]; rfl

private theorem Cuts.append {events' : List (List UInt8)} {tail' : List UInt8}
    (h : Cuts bytes events tail) (h' : Cuts (tail ++ more) events' tail') :
    Cuts (bytes ++ more) (events ++ events') tail' := by
  induction h with
  | rest _ => exact h'
  | event within _ ih => simpa using Cuts.event within (ih h')

end Cut

namespace Decoder

variable {chunk : List UInt8} {chunks : List (List UInt8)} {d : Decoder}

private theorem push_of_cuts {events : List (List UInt8)} {tail : List UInt8}
    (h : Cuts (d.pending ++ stripReturns chunk) events tail) :
    d.push chunk = (events.filterMap payloadOf?, ⟨tail⟩) := by
  simp only [push, feed, h.cut_eq, List.filterMap_map]
  rfl

private theorem cuts_pushAll (chunks : List (List UInt8)) (d : Decoder)
    (kept : ¬ blankLine <:+: d.pending) :
    ∃ events tail, Cuts (d.pending ++ stripReturns chunks.flatten) events tail ∧
      d.pushAll chunks = (events.filterMap payloadOf?, ⟨tail⟩) := by
  induction chunks generalizing d with
  | nil => exact ⟨[], d.pending, by simpa [stripReturns] using Cuts.rest kept, rfl⟩
  | cons chunk chunks ih =>
    have first := cuts_cut (d.pending ++ stripReturns chunk)
    obtain ⟨events, tail, later, pushed⟩ := ih ⟨_⟩ first.rest_free
    refine ⟨(cut (d.pending ++ stripReturns chunk)).1 ++ events, tail, ?_, ?_⟩
    · simpa [stripReturns] using first.append later
    · simp only [pushAll, push_of_cuts first, pushed, List.filterMap_append]

theorem decode_of_cuts {events : List (List UInt8)} {tail : List UInt8}
    (h : Cuts (stripReturns chunks.flatten) events tail) :
    decode chunks = ⟨events.filterMap payloadOf?, payloadOf? tail, none⟩ := by
  obtain ⟨events', tail', cuts, pushed⟩ :=
    cuts_pushAll chunks start (not_blankLine_infix_of_length (by decide))
  obtain ⟨rfl, rfl⟩ := Prod.mk.inj (h.cut_eq.symm.trans cuts.cut_eq)
  simp only [decode, pushed]
  rfl

/-- What a stream brings is decided by its bytes: the payloads of the events into which they are
cut, at the end that of the rest, and after the end nothing. -/
theorem chunks_do_not_matter (chunks chunks' : List (List UInt8))
    (same : chunks.flatten = chunks'.flatten) :
    decode chunks = decode chunks' ∧
      ∃ events tail, Cuts (stripReturns chunks.flatten) events tail ∧
        (∀ events' tail', Cuts (stripReturns chunks.flatten) events' tail' →
          events' = events ∧ tail' = tail) ∧
        decode chunks = ⟨events.filterMap payloadOf?, payloadOf? tail, none⟩ := by
  have cuts := cuts_cut (stripReturns chunks.flatten)
  have decoded := decode_of_cuts cuts
  refine ⟨?_, _, _, cuts, ?_, decoded⟩
  · have cuts' := cuts_cut (stripReturns chunks'.flatten)
    rw [decoded, decode_of_cuts cuts', same]
  · intro events' tail' other
    exact Prod.mk.inj (other.cut_eq.symm.trans cuts.cut_eq)

def wholeWire : List (List UInt8) := ["data: 1\r\n\r\n\ndata: \"é\"".toUTF8.data.toList]

/-- The same stream, cut within its line breaks and within a character. -/
def piecewiseWire : List (List UInt8) :=
  ["data: 1\r".toUTF8.data.toList, [10], [], "\r\n\ndata: \"".toUTF8.data.toList, [0xc3],
    [0xa9, 0x22]]

theorem pieces_bring_the_whole :
    wholeWire.flatten = piecewiseWire.flatten ∧ decode wholeWire = decode piecewiseWire ∧
      decode piecewiseWire = ⟨[.int 1], some (.str "é"), none⟩ := by
  have same : wholeWire.flatten = piecewiseWire.flatten := by decide
  exact ⟨same, (chunks_do_not_matter wholeWire piecewiseWire same).1, rfl⟩

end Decoder

end PromptCanvas.EventStream

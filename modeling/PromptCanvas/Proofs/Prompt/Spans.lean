import Mathlib.Data.List.Basic
import PromptCanvas.Proofs.Prompt.Tokens
import PromptCanvas.Proofs.Text.Bytes

/-!
References in the bytes of a text.

The grammar of references speaks of bytes: `@img`, then digits of ASCII as far as they go, with no
letter or digit of ASCII before.  All of these are small bytes, so what it says of the bytes of a
text it says of its characters.
-/

set_option autoImplicit false
set_option relaxedAutoImplicit false

namespace PromptCanvas.Reference

/-- A stretch of a text, from one byte up to another. -/
structure Span where
  start : Nat
  stop : Nat
  deriving Repr, DecidableEq

/-- The references among the pieces of a text that begin at a byte, each with its id and the bytes
that it takes. -/
def spansFrom (place : Nat) : List Token → List (Nat × Span)
  | [] => []
  | .char c :: more => spansFrom (place + (Text.bytesOf [c]).length) more
  | .reference id digits :: more =>
    let stop := place + (Text.bytesOf (opening ++ digits)).length
    (id, ⟨place, stop⟩) :: spansFrom stop more

/-- The references of a text in order, each with its id and the bytes that it takes. -/
def spans (cs : List Char) : List (Nat × Span) := spansFrom 0 (tokens cs)

def mark : List UInt8 := [0x40, 0x69, 0x6D, 0x67]

def IsDigit (b : UInt8) : Prop := 0x30 ≤ b.toNat ∧ b.toNat ≤ 0x39

def IsLetterOrDigit (b : UInt8) : Prop :=
  IsDigit b ∨ (0x41 ≤ b.toNat ∧ b.toNat ≤ 0x5A) ∨ (0x61 ≤ b.toNat ∧ b.toNat ≤ 0x7A)

def decimal (digits : List UInt8) : Nat :=
  digits.foldl (fun value b => 10 * value + (b.toNat - 0x30)) 0

/-- The grammar of references: in the bytes of a text there is a reference with an id between
`before` and `after`, with these digits. -/
structure Grammar (bytes before digits after : List UInt8) (id : Nat) : Prop where
  bytes : bytes = before ++ (mark ++ digits ++ after)
  apart : ∀ b ∈ before.getLast?, ¬ IsLetterOrDigit b
  nonempty : digits ≠ []
  decimal : ∀ b ∈ digits, IsDigit b
  maximal : ∀ b ∈ after.head?, ¬ IsDigit b
  value : Reference.decimal digits = id
  positive : 1 ≤ id
  bounded : id ≤ 0xFFFFFFFF

def Spells (bytes : List UInt8) (id : Nat) (span : Span) : Prop :=
  ∃ before digits after, Grammar bytes before digits after id ∧
    span.start = before.length ∧ span.stop = before.length + mark.length + digits.length

section Classes

variable {b : UInt8} {c : Char} {cs ds : List Char}

private theorem class_of_mem (mem : b ∈ String.utf8EncodeChar c) :
    (IsDigit b ↔ c.isDigit = true) ∧ (IsLetterOrDigit b ↔ c.isAlphanum = true) := by
  rw [Text.isAlphanum_eq_true_iff, Text.isDigit_eq_true_iff, IsLetterOrDigit, IsDigit]
  rcases Text.small_or_large mem with ⟨rfl, small, -⟩ | ⟨large, large'⟩
  · rw [Text.toNat_charOf small]
    exact ⟨Iff.rfl, Iff.rfl⟩
  · omega

private theorem small_of_isDigit (digit : IsDigit b) : b.toNat < 0x80 := by
  rw [IsDigit] at digit
  omega

private theorem isDigit_charOf (digit : IsDigit b) : (Text.charOf b).isDigit = true := by
  rw [Text.isDigit_eq_true_iff, Text.toNat_charOf (small_of_isDigit digit)]
  exact digit

private theorem head?_bytesOf :
    (∀ b ∈ (Text.bytesOf cs).head?, ¬ IsDigit b) ↔ ∀ c ∈ cs.head?, c.isDigit = false := by
  cases cs with
  | nil => simp [Text.bytesOf]
  | cons c cs =>
    obtain ⟨b, more, bytes⟩ := List.exists_cons_of_ne_nil (String.utf8EncodeChar_ne_nil (c := c))
    have mem : b ∈ String.utf8EncodeChar c := by rw [bytes]; exact List.mem_cons_self
    have same := (class_of_mem mem).1
    simp [Text.bytesOf_cons, bytes, same]

private theorem getLast?_bytesOf :
    (∀ b ∈ (Text.bytesOf cs).getLast?, ¬ IsLetterOrDigit b) ↔
      ∀ c ∈ cs.getLast?, c.isAlphanum = false := by
  cases cs using List.reverseRecOn with
  | nil => simp [Text.bytesOf]
  | append_singleton cs c =>
    have last : (Text.bytesOf [c]).getLast?.isSome = true := by
      simp [Text.bytesOf, String.utf8EncodeChar_ne_nil]
    obtain ⟨b, is_last⟩ := Option.isSome_iff_exists.mp last
    have mem : b ∈ String.utf8EncodeChar c := by
      simpa [Text.bytesOf] using List.mem_of_getLast? is_last
    have same := (class_of_mem mem).2
    rw [Text.bytesOf_append, List.getLast?_append, is_last]
    simp [same]

private theorem numeralValue_map_charOf {digits : List UInt8} (digit : ∀ b ∈ digits, IsDigit b) :
    Text.numeralValue (digits.map Text.charOf) = decimal digits := by
  have step (value : Nat) (b : UInt8) (mem : b ∈ digits) :
      10 * value + Text.digitValue (Text.charOf b) = 10 * value + (b.toNat - 0x30) := by
    rw [Text.digitValue, Text.toNat_charOf (small_of_isDigit (digit b mem))]
    rfl
  rw [Text.numeralValue, List.foldl_map, decimal]
  exact List.foldl_ext _ _ _ step

end Classes

section Transport

variable {cs before ds after : List Char} {front digits back : List UInt8} {id : Nat}

private theorem grammar_of_stands (stands : Stands cs before id ds after) :
    Grammar (Text.bytesOf cs) (Text.bytesOf before) (Text.bytesOf ds) (Text.bytesOf after) id := by
  obtain ⟨⟨nonempty, decimal, maximal, value, positive, bounded⟩, rfl, apart⟩ := stands
  have digit : ∀ b ∈ Text.bytesOf ds, IsDigit b := by
    intro b mem
    obtain ⟨c, inside, mem⟩ := List.mem_flatMap.mp mem
    exact (class_of_mem mem).1.mpr (decimal c inside)
  have same := Text.map_charOf_bytesOf fun b mem => small_of_isDigit (digit b mem)
  constructor
  case bytes =>
    simp only [Text.bytesOf_append]
    rfl
  case apart => exact getLast?_bytesOf.mpr apart
  case nonempty => exact fun empty => nonempty (Text.bytesOf_eq_nil.mp empty)
  case decimal => exact digit
  case maximal => exact head?_bytesOf.mpr maximal
  case value => rw [← numeralValue_map_charOf digit, same, value]
  case positive => exact positive
  case bounded => exact bounded

private theorem exists_cut_at_mark (decimal : ∀ b ∈ digits, IsDigit b)
    (bytes : Text.bytesOf cs = front ++ (mark ++ digits ++ back)) :
    ∃ before after, cs = before ++ (opening ++ digits.map Text.charOf ++ after) ∧
      Text.bytesOf before = front ∧ Text.bytesOf after = back := by
  have small : ∀ b ∈ mark ++ digits, b.toNat < 0x80 := by
    intro b mem
    rcases List.mem_append.mp mem with inside | digit
    · have all : ∀ b ∈ mark, b.toNat < 0x80 := by simp [mark]
      exact all b inside
    · exact small_of_isDigit (decimal b digit)
  have marked : mark.map Text.charOf = opening := by decide
  rw [← marked, ← List.map_append]
  exact Text.exists_cut (by simp [mark]) small bytes

private theorem stands_of_grammar (grammar : Grammar (Text.bytesOf cs) front digits back id) :
    ∃ before after, Stands cs before id (digits.map Text.charOf) after ∧
      Text.bytesOf before = front ∧ Text.bytesOf after = back := by
  obtain ⟨bytes, apart, nonempty, decimal, maximal, value, positive, bounded⟩ := grammar
  obtain ⟨before, after, rfl, here, there⟩ := exists_cut_at_mark decimal bytes
  refine ⟨before, after, ⟨⟨by simpa using nonempty, ?_, ?_, ?_, positive, bounded⟩, rfl, ?_⟩,
    here, there⟩
  · intro c mem
    obtain ⟨b, inside, rfl⟩ := List.mem_map.mp mem
    exact isDigit_charOf (decimal b inside)
  · exact head?_bytesOf.mp (there ▸ maximal)
  · rw [numeralValue_map_charOf decimal, value]
  · exact getLast?_bytesOf.mp (here ▸ apart)

end Transport

section Order

variable {ts : List Token} {id place : Nat} {span : Span}

def bytesIn (ts : List Token) : Nat := (Text.bytesOf (textOf ts)).length

private theorem bytesIn_cons (t : Token) (ts : List Token) :
    bytesIn (t :: ts) = (Text.bytesOf t.text).length + bytesIn ts := by
  rw [bytesIn, textOf_cons, Text.bytesOf_append, List.length_append, ← bytesIn]

/-- The bytes of a reference with some digits behind some pieces that begin at a byte. -/
def spanBehind (place : Nat) (earlier : List Token) (ds : List Char) : Span :=
  ⟨place + bytesIn earlier,
    place + bytesIn earlier + (Text.bytesOf (opening ++ ds)).length⟩

private theorem spanBehind_cons (place : Nat) (t : Token) (earlier : List Token) (ds : List Char) :
    spanBehind place (t :: earlier) ds =
      spanBehind (place + (Text.bytesOf t.text).length) earlier ds := by
  simp only [spanBehind, bytesIn_cons, Nat.add_assoc]

private theorem mem_spansFrom_iff :
    (id, span) ∈ spansFrom place ts ↔ ∃ earlier ds later,
      ts = earlier ++ .reference id ds :: later ∧ span = spanBehind place earlier ds := by
  induction ts generalizing place with
  | nil => simp [spansFrom]
  | cons t ts ih =>
    have behind : (id, span) ∈ spansFrom (place + (Text.bytesOf t.text).length) ts ↔
        ∃ earlier ds later, t :: ts = t :: earlier ++ .reference id ds :: later ∧
          span = spanBehind place (t :: earlier) ds := by
      simp [ih, spanBehind_cons]
    cases t with
    | char c =>
      rw [spansFrom]
      refine behind.trans ⟨?_, ?_⟩
      · rintro ⟨earlier, ds, later, whole, place⟩
        exact ⟨_, ds, later, whole, place⟩
      · rintro ⟨earlier, ds, later, whole, place⟩
        cases earlier with
        | nil => cases whole
        | cons first earlier =>
          obtain ⟨rfl, -⟩ := List.cons.inj whole
          exact ⟨earlier, ds, later, whole, place⟩
    | reference id' ds' =>
      rw [spansFrom, List.mem_cons]
      refine (or_congr_right behind).trans ⟨?_, ?_⟩
      · rintro (first | ⟨earlier, ds, later, whole, place⟩)
        · obtain ⟨rfl, rfl⟩ := Prod.mk.inj first
          exact ⟨[], ds', ts, rfl, rfl⟩
        · exact ⟨_, ds, later, whole, place⟩
      · rintro ⟨earlier, ds, later, whole, rfl⟩
        cases earlier with
        | nil =>
          obtain ⟨same, -⟩ := List.cons.inj whole
          obtain ⟨rfl, rfl⟩ := Token.reference.inj same
          exact .inl rfl
        | cons first earlier =>
          obtain ⟨rfl, -⟩ := List.cons.inj whole
          exact .inr ⟨earlier, ds, later, whole, rfl⟩

private theorem le_start_of_mem_spansFrom {found : Nat × Span} (mem : found ∈ spansFrom place ts) :
    place ≤ found.2.start := by
  obtain ⟨earlier, ds, later, -, place⟩ := mem_spansFrom_iff.mp mem
  rw [place]
  exact Nat.le_add_right _ _

private theorem pairwise_spansFrom (place : Nat) (ts : List Token) :
    (spansFrom place ts).Pairwise fun first second => first.2.stop ≤ second.2.start := by
  induction ts generalizing place with
  | nil => exact .nil
  | cons t ts ih =>
    cases t with
    | char c => exact ih _
    | reference id ds => exact .cons (fun found mem => le_start_of_mem_spansFrom mem) (ih _)

private theorem map_fst_spansFrom (place : Nat) (ts : List Token) :
    (spansFrom place ts).map Prod.fst = ts.filterMap Token.id? := by
  induction ts generalizing place with
  | nil => rfl
  | cons t ts ih =>
    cases t with
    | char c => exact ih _
    | reference id ds => exact congrArg (id :: ·) (ih _)

private theorem mem_spans_iff {cs : List Char} :
    (id, span) ∈ spans cs ↔ Spells (Text.bytesOf cs) id span := by
  have size (ds : List Char) :
      (Text.bytesOf (opening ++ ds)).length = mark.length + (Text.bytesOf ds).length := by
    rw [Text.bytesOf_append, List.length_append]
    rfl
  rw [spans, mem_spansFrom_iff]
  constructor
  · rintro ⟨earlier, ds, later, cut, rfl⟩
    have stands := stands_iff.mpr ⟨earlier, later, cut, rfl, rfl⟩
    refine ⟨_, _, _, grammar_of_stands stands, Nat.zero_add _, ?_⟩
    rw [spanBehind, bytesIn, size, Nat.zero_add, Nat.add_assoc]
  · rintro ⟨front, digits, back, grammar, start, stop⟩
    obtain ⟨before, after, stands, rfl, -⟩ := stands_of_grammar grammar
    obtain ⟨earlier, later, cut, rfl, -⟩ := stands_iff.mp stands
    refine ⟨earlier, _, later, cut, ?_⟩
    cases span
    rw [spanBehind, bytesIn, size, Nat.zero_add, ← Nat.add_assoc,
      Text.bytesOf_map_charOf fun b mem => small_of_isDigit (grammar.decimal b mem)]
    exact congrArg₂ Span.mk start stop

end Order

section Ids

private theorem ids_eq (cs : List Char) : ids cs = ((spans cs).map Prod.fst).eraseDups := by
  rw [spans, map_fst_spansFrom, ids, distinct_eq]

/-- A text that may stand between two references. -/
structure Separates (between : String) : Prop where
  nonempty : between ≠ ""
  first : ∀ c ∈ between.toList.head?, c.isDigit = false
  last : ∀ c ∈ between.toList.getLast?, c.isAlphanum = false
  plain : '@' ∉ between.toList

def joined (between : Nat → String) : List Nat → String
  | [] => ""
  | [id] => mention id
  | id :: next :: more =>
    mention id ++ between 0 ++ joined (fun i => between (i + 1)) (next :: more)

private theorem toList_mention (id : Nat) :
    (mention id).toList = opening ++ Nat.toDigits 10 id := by
  simp [mention, opening, ToString.toString]

private theorem spelled_toDigits {id : Nat} {after : List Char} (fits : 0 < id ∧ id ≤ Text.max32)
    (maximal : ∀ c ∈ after.head?, c.isDigit = false) : Spelled id (Nat.toDigits 10 id) after where
  nonempty := Nat.toDigits_ne_nil
  decimal _ := Nat.isDigit_of_mem_toDigits (by decide) (by decide)
  maximal := maximal
  value := Text.numeralValue_toDigits id
  positive := fits.1
  bounded := fits.2

private theorem tokens_joined {between : Nat → String} (separates : ∀ i, Separates (between i))
    {refs : List Nat} (fit : ∀ id ∈ refs, 0 < id ∧ id ≤ Text.max32) :
    (tokens (joined between refs).toList).filterMap Token.id? = refs := by
  fun_induction joined between refs with
  | case1 between => simp [tokens, tokensFrom]
  | case2 between id =>
    have spelled : Spelled id (Nat.toDigits 10 id) [] :=
      spelled_toDigits (fit id List.mem_cons_self) (by simp)
    rw [toList_mention, tokens, ← List.append_nil (opening ++ _), tokensFrom_reference spelled]
    simp [tokensFrom, Token.id?]
  | case3 between id next more ih =>
    obtain ⟨nonempty, first, last, plain⟩ := separates 0
    obtain ⟨here, others⟩ := List.forall_mem_cons.mp fit
    have behind := ih (fun i => separates (i + 1)) others
    generalize joined (fun i => between (i + 1)) (next :: more) = later at behind
    have some : (between 0).toList ≠ [] := by simpa using nonempty
    have unbound : freeAfter false (between 0).toList = true :=
      freeAfter_eq_true_iff.mpr ⟨fun empty => absurd empty some, last⟩
    have maximal : ∀ c ∈ ((between 0).toList ++ later.toList).head?, c.isDigit = false := by
      rwa [List.head?_append_of_ne_nil _ some]
    have apart : (between 0).toList.filterMap (Token.id? ∘ Token.char) = [] := by
      simp [Token.id?]
    rw [String.toList_append, String.toList_append, toList_mention, List.append_assoc, tokens,
      tokensFrom_reference (spelled_toDigits here maximal),
      tokensFrom_append_of_notMem false plain, unbound, List.filterMap_cons, Token.id?,
      List.filterMap_append, List.filterMap_map, apart, List.nil_append, ← tokens, behind]

end Ids

/-- The scanner passes over the whole text and finds what its bytes spell, in order and apart; the
ids are those of the references, each once.  Each place where it may cut the text, before and behind
an `@img` and behind the digits there, is one between characters.  Ids that were written as
references with other text between are read back. -/
theorem scanner_finds_what_is_spelled (text : String) :
    textOf (tokens text.toList) = text.toList ∧
    ((spans text.toList).Pairwise fun first second => first.2.stop ≤ second.2.start) ∧
    (∀ id span, (id, span) ∈ spans text.toList ↔ Spells (Text.encodeUtf8 text) id span) ∧
    ids text.toList = ((spans text.toList).map Prod.fst).eraseDups ∧
    (∀ front digits back, (∀ b ∈ digits, IsDigit b) →
      Text.encodeUtf8 text = front ++ (mark ++ digits ++ back) →
      ∃ before number after, text = before ++ "@img" ++ number ++ after ∧
        Text.encodeUtf8 before = front ∧ Text.encodeUtf8 number = digits ∧
        Text.encodeUtf8 after = back) ∧
    ∀ between refs, (∀ i, Separates (between i)) → (∀ id ∈ refs, 0 < id ∧ id ≤ 0xFFFFFFFF) →
      ids (joined between refs).toList = refs.eraseDups := by
  refine ⟨textOf_tokensFrom true _, pairwise_spansFrom 0 _, ?_, ids_eq _, ?_, ?_⟩
  · intro id span
    rw [mem_spans_iff, Text.encodeUtf8_eq, Text.bytesOf]
  · intro front digits back decimal bytes
    rw [Text.encodeUtf8_eq] at bytes
    obtain ⟨before, after, whole, here, there⟩ := exists_cut_at_mark decimal bytes
    have number := Text.bytesOf_map_charOf fun b mem => small_of_isDigit (decimal b mem)
    refine ⟨String.ofList before, String.ofList (digits.map Text.charOf), String.ofList after, ?_⟩
    simp only [Text.encodeUtf8_eq, String.toList_ofList, ← Text.bytesOf.eq_def]
    refine ⟨?_, here, number, there⟩
    rw [← String.toList_inj, whole]
    simp [opening]
  · intro between refs separates fit
    rw [ids, tokens_joined separates fit, distinct_eq]

theorem scanner_reads_beside_foreign_letters :
    (12, ⟨2, 9⟩) ∈ spans "é@img012x".toList ∧
    (∃ before number after, "é@img012x" = before ++ "@img" ++ number ++ after ∧
      Text.encodeUtf8 before = [0xC3, 0xA9] ∧ Text.encodeUtf8 number = [0x30, 0x31, 0x32] ∧
      Text.encodeUtf8 after = [0x78]) ∧
    ids (joined (fun _ => "é") [2, 1, 2]).toList = [2, 1] := by
  have bytes : Text.encodeUtf8 "é@img012x" =
      [0xC3, 0xA9] ++ (mark ++ [0x30, 0x31, 0x32] ++ [0x78]) := by
    rw [Text.encodeUtf8_eq]
    decide
  have decimal : ∀ b ∈ [0x30, 0x31, 0x32], IsDigit b := by simp [IsDigit]
  have separates : Separates "é" := by constructor <;> simp
  obtain ⟨-, -, found, -, cut, back⟩ := scanner_finds_what_is_spelled "é@img012x"
  refine ⟨(found 12 ⟨2, 9⟩).mpr ?_, cut _ _ _ decimal bytes,
    back (fun _ => "é") [2, 1, 2] (fun _ => separates) (by decide)⟩
  have grammar :
      Grammar (Text.encodeUtf8 "é@img012x") [0xC3, 0xA9] [0x30, 0x31, 0x32] [0x78] 12 := by
    constructor
    case bytes => exact bytes
    case decimal => exact decimal
    all_goals simp [IsLetterOrDigit, IsDigit, Reference.decimal]
  exact ⟨_, _, _, grammar, rfl, rfl⟩

end PromptCanvas.Reference

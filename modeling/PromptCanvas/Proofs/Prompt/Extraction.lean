import PromptCanvas.Proofs.Prompt.Directive

/-!
What is left of a text when its size directives are taken out.

The directives of a text are found from left to right.  Each opens where `(@size` stands next, in
any case, behind the one before, and ends at the next closing parenthesis, whatever stands between.
A text in which one of them is not closed or asks for no size is refused; of any other text all that
stands outside of them is left.
-/

set_option autoImplicit false
set_option relaxedAutoImplicit false

namespace PromptCanvas

private theorem Size.parse_append {blank written : List Char}
    (all : ∀ c ∈ blank, Text.isBlank c = true) : parse (blank ++ written) = parse written := by
  rw [parse, Text.trim_append all, parse]

namespace Directive

/-- A directive of a text, with what stands between it and the one before. -/
structure Entry where
  before : List Char
  opened : List Char
  content : List Char

def Entry.text (d : Entry) : List Char := d.opened ++ (d.content ++ [')'])

/-- What is behind the last directive that is closed: text in which none opens, or one that is never
closed. -/
inductive Rest where
  | plain (text : List Char)
  | unclosed (before opened after : List Char)

/-- No directive opens in a text that another one follows, not even across its end. -/
def Plain (front behind : List Char) : Prop :=
  ∀ earlier later, front = earlier ++ later → later ≠ [] → opens (later ++ behind) = false

/-- The directives of a text from left to right, and what is behind them. -/
inductive Found : List Char → List Entry → Rest → Prop
  | plain {text : List Char} : Plain text [] → Found text [] (.plain text)
  | unclosed {before opened after : List Char} :
    Plain before (opened ++ after) → Text.lower opened = opening → ')' ∉ after →
    Found (before ++ (opened ++ after)) [] (.unclosed before opened after)
  | directive {before opened content after : List Char} {ds : List Entry} {rest : Rest} :
    Plain before (opened ++ (content ++ ')' :: after)) → Text.lower opened = opening →
    ')' ∉ content → Found after ds rest →
    Found (before ++ (opened ++ (content ++ ')' :: after))) (⟨before, opened, content⟩ :: ds) rest

/-- The content of a directive asks for a size: white space and one colon may stand before it. -/
def Asks (content : List Char) (size : Size) : Prop :=
  ∃ blank colon written, content = blank ++ (colon ++ written) ∧
    (∀ c ∈ blank, Text.isBlank c = true) ∧ (colon = [] ∨ colon = [':']) ∧
    Size.parse written = .ok size

section Content

variable {content : List Char} {size : Size}

private theorem asks_iff : Asks content size ↔ Size.parse (value content) = .ok size := by
  constructor
  · rintro ⟨blank, colon, written, rfl, all, rfl | rfl, parsed⟩
    · have whole : Size.parse (blank ++ written) = .ok size := by rwa [Size.parse_append all]
      have apart : ':' ∉ blank ++ written := Size.notMem_of_parse (by decide) whole
      rw [List.nil_append, value, Text.trimStart_append all]
      split
      · next rest colon =>
        have mem : ':' ∈ Text.trimStart written := colon ▸ List.mem_cons_self
        have inside := (List.dropWhile_sublist _).subset mem
        exact absurd (List.mem_append_right blank inside) apart
      · rwa [Size.parse_append all]
    · have solid : (':' :: written).head?.any Text.isBlank = false := by
        change Text.isBlank ':' = false
        decide
      rw [value, Text.trimStart_append all, List.singleton_append,
        Text.trimStart_eq_self solid]
      exact parsed
  · intro parsed
    unfold value at parsed
    split at parsed
    · next written colon =>
      refine ⟨content.takeWhile Text.isBlank, [':'], written, ?_, ?_, .inr rfl, parsed⟩
      · rw [List.singleton_append, ← colon, Text.trimStart, List.takeWhile_append_dropWhile]
      · exact fun c mem => List.mem_takeWhile_imp mem
    · exact ⟨[], [], content, rfl, List.forall_mem_nil _, .inl rfl, parsed⟩

end Content

section Search

variable {cs front behind : List Char}

private theorem plain_nil (behind : List Char) : Plain [] behind := by
  rintro earlier later whole some
  exact absurd (List.append_eq_nil_iff.mp whole.symm).2 some

private theorem Plain.cons {c : Char} (shut : opens (c :: (front ++ behind)) = false)
    (plain : Plain front behind) : Plain (c :: front) behind := by
  rintro earlier later whole some
  cases earlier with
  | nil =>
    rw [← List.nil_append later, ← whole]
    exact shut
  | cons d earlier => exact plain earlier later (List.cons.inj whole).2 some

private theorem Plain.head {c : Char} (plain : Plain (c :: front) behind) :
    opens (c :: (front ++ behind)) = false :=
  plain [] (c :: front) rfl (List.cons_ne_nil c front)

private theorem Plain.tail {c : Char} (plain : Plain (c :: front) behind) : Plain front behind := by
  rintro earlier later rfl some
  exact plain (c :: earlier) later rfl some

private theorem exists_opening (cs : List Char) :
    ∃ front behind, cs = front ++ behind ∧ Plain front behind ∧
      (behind = [] ∨ opens behind = true) := by
  induction cs with
  | nil => exact ⟨[], [], rfl, plain_nil [], .inl rfl⟩
  | cons c cs ih =>
    cases here : opens (c :: cs) with
    | true => exact ⟨[], c :: cs, rfl, plain_nil _, .inr here⟩
    | false =>
      obtain ⟨front, behind, rfl, plain, next⟩ := ih
      exact ⟨c :: front, behind, rfl, plain.cons here, next⟩

private theorem exists_found (cs : List Char) : ∃ ds rest, Found cs ds rest := by
  induction long : cs.length using Nat.strong_induction_on generalizing cs with
  | _ n ih =>
    obtain ⟨front, behind, rfl, plain, rfl | opened⟩ := exists_opening cs
    · rw [List.append_nil]
      exact ⟨[], _, .plain plain⟩
    obtain ⟨opened, after, rfl, spelled⟩ := opens_eq_true_iff.mp opened
    by_cases closed : ')' ∈ after
    · obtain ⟨content, later, rfl, shut⟩ := List.eq_append_cons_of_mem closed
      have shorter : later.length < n := by
        rw [← long]
        simp only [List.length_append, List.length_cons]
        omega
      obtain ⟨ds, rest, found⟩ := ih _ shorter later rfl
      exact ⟨_, rest, .directive plain spelled shut found⟩
    · exact ⟨[], _, .unclosed plain spelled closed⟩

end Search

section Extraction

variable {cs front behind opened content after : List Char}

private theorem extract_append (plain : Plain front behind) :
    extract (front ++ behind) = (extract behind).map fun left => (front ++ left.1, left.2) := by
  induction front with
  | nil =>
    rw [List.nil_append]
    cases extract behind <;> rfl
  | cons c front ih =>
    have shut : ¬ opens (c :: (front ++ behind)) = true := by
      rw [plain.head]
      exact Bool.false_ne_true
    rw [List.cons_append, extract, if_neg shut, ih plain.tail]
    cases extract behind <;> rfl

private theorem extract_unclosed (spelled : Text.lower opened = opening) (shut : ')' ∉ after) :
    extract (opened ++ after) = .error (.invalidSize (String.ofList (opened ++ after))) := by
  have closing : closing (opened ++ after) = [] := by
    rw [closing, ← length_of_lower spelled, List.drop_left, List.dropWhile_eq_nil_iff]
    exact fun c mem => decide_eq_true fun same => shut (same ▸ mem)
  rw [extract.eq_def, if_pos (opens_append spelled after)]
  split
  · rfl
  · next some => cases closing.symm.trans some

private theorem extract_directive (spelled : Text.lower opened = opening) (shut : ')' ∉ content) :
    extract (opened ++ (content ++ ')' :: after)) =
      (Size.parse (value content)).bind fun size =>
        (extract after).map fun left => (' ' :: left.1, some size) := by
  rw [extract.eq_def, if_pos (opens_append spelled _)]
  split
  · next none => cases (closing_eq spelled shut).symm.trans none
  · next c later some =>
    obtain ⟨-, rfl⟩ := List.cons.inj ((closing_eq spelled shut).symm.trans some)
    rw [inner_eq spelled shut]
    cases Size.parse (value content) with
    | error e => rfl
    | ok size => cases extract after <;> rfl

end Extraction

section Found

variable {cs last : List Char} {ds : List Entry} {rest : Rest}

/-- Directives and what stands between them, each directive replaced by something, and a last text
behind them. -/
def filled (place : Entry → List Char) (ds : List Entry) (last : List Char) : List Char :=
  ds.flatMap (fun d => d.before ++ place d) ++ last

private theorem filled_cons (place : Entry → List Char) (d : Entry) (ds : List Entry)
    (last : List Char) :
    filled place (d :: ds) last = d.before ++ (place d ++ filled place ds last) := by
  simp [filled]

private theorem Found.eq_filled (found : Found cs ds (.plain last)) :
    cs = filled Entry.text ds last := by
  generalize closed : Rest.plain last = rest at found
  induction found with
  | plain =>
    cases closed
    rfl
  | unclosed => cases closed
  | directive plain spelled shut found ih =>
    rw [filled_cons, ← ih closed]
    simp [Entry.text]

def Entry.size? (d : Entry) : Option Size := (Size.parse (value d.content)).toOption

private theorem Entry.asks_iff {d : Entry} {size : Size} :
    Asks d.content size ↔ d.size? = some size := by
  rw [Directive.asks_iff, Entry.size?]
  cases Size.parse (value d.content) <;> simp [Except.toOption]

private theorem Found.extract_eq (found : Found cs ds (.plain last))
    (read : ∀ d ∈ ds, ∃ size, Asks d.content size) :
    extract cs = .ok (filled (fun _ => [' ']) ds last, ds.head?.bind Entry.size?) := by
  generalize closed : Rest.plain last = rest at found
  induction found with
  | plain plain =>
    cases closed
    have kept := extract_append plain
    rw [List.append_nil] at kept
    have none : extract [] = .ok ([], none) := extract_of_not_isInfix (by decide)
    rw [kept, none]
    simp [Except.map, filled]
  | unclosed => cases closed
  | directive plain spelled shut found ih =>
    obtain ⟨⟨size, asks⟩, later⟩ := List.forall_mem_cons.mp read
    have parsed := Directive.asks_iff.mp asks
    rw [extract_append plain, extract_directive spelled shut, parsed, ih later closed, filled_cons]
    simp [Except.bind, Except.map, Entry.size?, parsed, Except.toOption]

private theorem Found.of_extract {left : List Char × Option Size} (found : Found cs ds rest)
    (extracted : extract cs = .ok left) :
    (∃ last, rest = .plain last) ∧ ∀ d ∈ ds, ∃ size, Asks d.content size := by
  induction found generalizing left with
  | plain => exact ⟨⟨_, rfl⟩, List.forall_mem_nil _⟩
  | unclosed plain spelled shut =>
    rw [extract_append plain, extract_unclosed spelled shut] at extracted
    cases extracted
  | @directive before opened content after ds rest plain spelled shut found ih =>
    rw [extract_append plain, extract_directive spelled shut] at extracted
    cases parsed : Size.parse (value content) with
    | error e =>
      rw [parsed] at extracted
      cases extracted
    | ok size =>
      rw [parsed] at extracted
      cases later : extract after with
      | error e =>
        rw [later] at extracted
        cases extracted
      | ok left =>
        obtain ⟨closed, read⟩ := ih later
        exact ⟨closed, List.forall_mem_cons.mpr ⟨⟨size, asks_iff.mpr parsed⟩, read⟩⟩

end Found

/-- The directives of a text are found from left to right, and something is left of it just if they
are closed and each asks for a size.  That is all of the text outside of them, with a single space
in the place of each; no directive opens in it, in any case, so that it is left as it is from then
on.  With it comes the size of the first directive, if there is one. -/
theorem extraction_leaves_the_rest (text : String) :
    (∃ ds rest, Found text.toList ds rest) ∧
    ∀ ds rest, Found text.toList ds rest →
      ((∃ left, extract text.toList = .ok left) ↔
        (∃ last, rest = .plain last) ∧ ∀ d ∈ ds, ∃ size, Asks d.content size) ∧
      ∀ left size?, extract text.toList = .ok (left, size?) →
        (∃ last, rest = .plain last ∧ text.toList = filled Entry.text ds last ∧
          left = filled (fun _ => [' ']) ds last) ∧
        ¬ opening <:+: Text.lower left ∧ extract left = .ok (left, none) ∧
        (size? = none ↔ ds = []) ∧
        ∀ d ∈ ds.head?, ∀ size, size? = some size ↔ Asks d.content size := by
  refine ⟨exists_found _, fun ds rest found => ⟨⟨?_, ?_⟩, fun left size? extracted => ?_⟩⟩
  · rintro ⟨left, extracted⟩
    exact found.of_extract extracted
  · rintro ⟨⟨last, rfl⟩, read⟩
    exact ⟨_, found.extract_eq read⟩
  · obtain ⟨⟨last, rfl⟩, read⟩ := found.of_extract extracted
    have shut := (strips_of_extract extracted).not_isInfix
    obtain ⟨rfl, rfl⟩ := Prod.mk.inj (Except.ok.inj ((found.extract_eq read).symm.trans extracted))
    refine ⟨⟨last, rfl, found.eq_filled, rfl⟩, shut, extract_of_not_isInfix shut, ?_, ?_⟩
    · cases ds with
      | nil => exact ⟨fun _ => rfl, fun _ => rfl⟩
      | cons d ds =>
        obtain ⟨size, asks⟩ := read d List.mem_cons_self
        simp [Entry.asks_iff.mp asks]
    · intro d first size
      rw [Option.mem_def.mp first]
      exact Entry.asks_iff.symm

/-- Two directives between letters that are not of ASCII are taken out; one with another opening
inside of it ends too early to ask for a size. -/
theorem directives_around_foreign_letters :
    extract "é(@SIZE 8x8)ß(@size :9×7)".toList = .ok ("é ß ".toList, some ⟨8, 8⟩) ∧
    ¬ ∃ left, extract "(@size (@size 8x8))".toList = .ok left := by
  constructor
  · have found : Found "é(@SIZE 8x8)ß(@size :9×7)".toList
        [⟨['é'], "(@SIZE".toList, " 8x8".toList⟩, ⟨['ß'], "(@size".toList, " :9×7".toList⟩]
        (.plain []) := by
      have whole : "é(@SIZE 8x8)ß(@size :9×7)".toList =
          ['é'] ++ ("(@SIZE".toList ++ (" 8x8".toList ++ ')' ::
            (['ß'] ++ ("(@size".toList ++ (" :9×7".toList ++ [')']))))) := by decide
      rw [whole]
      exact .directive ((plain_nil _).cons (by decide)) (by decide) (by decide)
        (.directive ((plain_nil _).cons (by decide)) (by decide) (by decide)
          (.plain (plain_nil [])))
    have blank : ∀ c ∈ [' '], Text.isBlank c = true := List.forall_mem_singleton.mpr (by decide)
    have first : Asks " 8x8".toList ⟨8, 8⟩ :=
      ⟨[' '], [], "8x8".toList, rfl, blank, .inl rfl, by decide⟩
    have second : Asks " :9×7".toList ⟨9, 7⟩ :=
      ⟨[' '], [':'], "9×7".toList, rfl, blank, .inr rfl, by decide⟩
    obtain ⟨some, outcome⟩ := (extraction_leaves_the_rest _).2 _ _ found
    obtain ⟨⟨left, size?⟩, extracted⟩ := some.mpr ⟨⟨_, rfl⟩, List.forall_mem_cons.mpr
      ⟨⟨_, first⟩, List.forall_mem_cons.mpr ⟨⟨_, second⟩, List.forall_mem_nil _⟩⟩⟩
    obtain ⟨⟨last, closed, -, rfl⟩, -, -, -, size⟩ := outcome _ _ extracted
    cases closed
    rw [extracted, (size _ rfl ⟨8, 8⟩).mpr first]
    rfl
  · have found : Found "(@size (@size 8x8))".toList
        [⟨[], "(@size".toList, " (@size 8x8".toList⟩] (.plain [')']) := by
      have whole : "(@size (@size 8x8))".toList =
          [] ++ ("(@size".toList ++ (" (@size 8x8".toList ++ ')' :: [')'])) := by decide
      rw [whole]
      exact .directive (plain_nil _) (by decide) (by decide)
        (.plain ((plain_nil _).cons (by decide)))
    intro some
    obtain ⟨-, read⟩ := ((extraction_leaves_the_rest _).2 _ _ found).1.mp some
    obtain ⟨size, asks⟩ := read _ List.mem_cons_self
    exact notMem_of_value (asks_iff.mp asks) (by decide)

end Directive

end PromptCanvas

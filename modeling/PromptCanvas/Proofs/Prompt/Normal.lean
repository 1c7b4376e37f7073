import PromptCanvas.Proofs.Prompt.Coverage

/-!
Reading what was read: the text that a prompt asks for is read as itself.

A text is its words and white space between them, and neither directives nor references hold white
space at which they could be cut or grown together.
-/

set_option autoImplicit false
set_option relaxedAutoImplicit false

namespace PromptCanvas

namespace Reference

def Token.shows : Token → Bool
  | .char c => !Text.isBlank c
  | .reference .. => true

section Words

variable {cs : List Char}

private theorem shows_of_mem {t : Token} {free : Bool} (mem : t ∈ tokensFrom free cs)
    (solid : ∀ c ∈ cs, Text.isBlank c = false) : t.shows = true := by
  cases t with
  | reference => rfl
  | char c =>
    have inside : c ∈ textOf (tokensFrom free cs) :=
      List.mem_flatMap.mpr ⟨_, mem, List.mem_singleton.mpr rfl⟩
    rw [textOf_tokensFrom] at inside
    rw [Token.shows, solid c inside]
    rfl

private theorem filter_shows (cs : List Char) :
    (tokens cs).filter Token.shows = (Text.words cs).flatMap tokens := by
  have not_at {c : Char} (blank : Text.isBlank c = true) : c ≠ '@' := by
    rintro rfl
    exact absurd blank (by decide)
  have hidden {c : Char} (blank : Text.isBlank c = true) : Token.shows (.char c) = false := by
    rw [Token.shows, blank]
    rfl
  have whole {w : List Char} (word : Text.IsWord w) : (tokens w).filter Token.shows = tokens w :=
    List.filter_eq_self.mpr fun t mem => shows_of_mem mem word.solid
  induction cs using Text.words_induction with
  | nil => simp [tokens, tokensFrom, Text.words_nil]
  | blank c cs blank ih =>
    rw [Text.words_cons_of_blank blank, ← ih, tokens,
      tokensFrom_cons true (Text.isAlphanum_of_isBlank blank) (not_at blank),
      List.filter_cons_of_neg (by simp [hidden blank])]
  | last w word => simp [word.words_eq, whole word]
  | word w c cs word blank ih =>
    rw [word.words_append_cons blank, tokens,
      tokensFrom_append_cons true w (Text.isAlphanum_of_isBlank blank) (not_at blank),
      List.filter_append, List.filter_cons_of_neg (by simp [hidden blank]), ih, ← tokens,
      whole word, List.flatMap_cons]

private theorem ids_eq_of_words {cs ds : List Char} (same : Text.words cs = Text.words ds) :
    ids cs = ids ds := by
  have kept (cs : List Char) : (tokens cs).filterMap Token.id? =
      ((Text.words cs).flatMap tokens).filterMap Token.id? := by
    rw [← filter_shows, List.filterMap_filter]
    congr 1
    funext t
    cases t with
    | char c => simp [Token.id?]
    | reference => rfl
  rw [ids, ids, kept cs, kept ds, same]

private theorem hasWords_eq_of_words {cs ds : List Char} (same : Text.words cs = Text.words ds) :
    hasWords cs = hasWords ds := by
  have kept (cs : List Char) :
      (tokens cs).any Token.isWord = ((Text.words cs).flatMap tokens).any Token.isWord := by
    rw [← filter_shows, List.any_filter]
    congr 1
    funext t
    cases t with
    | char c => simp [Token.isWord, Token.shows]
    | reference => rfl
  rw [hasWords, hasWords, kept cs, kept ds, same]

end Words

end Reference

namespace Directive

private theorem isWord_of_lower {opened : List Char} (spelled : Text.lower opened = opening) :
    Text.IsWord opened where
  nonempty := by
    rintro rfl
    cases spelled
  solid c mem := by
    have inside : c.toLower ∈ opening := spelled ▸ List.mem_map_of_mem mem
    have solid : ∀ d ∈ opening, Text.isBlank d = false := by
      simp [opening, Text.isBlank, Text.blankRanges]
    rw [Bool.eq_false_iff]
    intro blank
    rw [Text.toLower_of_isBlank blank] at inside
    rw [solid c inside] at blank
    cases blank

private theorem isInfix_lower_iff (cs : List Char) :
    opening <:+: Text.lower cs ↔ ∃ opened, Text.lower opened = opening ∧ opened <:+: cs := by
  constructor
  · rintro ⟨front, back, whole⟩
    obtain ⟨most, after, rfl, middle, -⟩ := List.map_eq_append_iff.mp whole.symm
    obtain ⟨before, opened, rfl, -, spelled⟩ := List.map_eq_append_iff.mp middle
    exact ⟨opened, spelled, before, after, rfl⟩
  · rintro ⟨opened, spelled, before, after, rfl⟩
    refine ⟨Text.lower before, Text.lower after, ?_⟩
    rw [← spelled]
    simp [Text.lower]

private theorem isInfix_lower_of_words {cs ds : List Char} (same : Text.words cs = Text.words ds)
    (opens : opening <:+: Text.lower cs) : opening <:+: Text.lower ds := by
  obtain ⟨opened, spelled, inside⟩ := (isInfix_lower_iff cs).mp opens
  have word := isWord_of_lower spelled
  rw [Text.isInfix_iff word, same, ← Text.isInfix_iff word] at inside
  exact (isInfix_lower_iff ds).mpr ⟨opened, spelled, inside⟩

end Directive

theorem Prompt.parse_of_not_isInfix {text : String}
    (plain : ¬ Directive.opening <:+: Text.lower text.toList)
    (words : Reference.hasWords text.toList = true) :
    Prompt.parse text = .ok
      { displayText := text
        requestText := String.ofList (Text.collapse text.toList)
        size := none
        references := Reference.ids text.toList } := by
  rw [Prompt.parse, Directive.extract_of_not_isInfix plain]
  exact if_pos words

/-- When all directives of a text can be read, it is empty as a prompt just if all its characters
outside of directives and references are white space.  The text that a prompt asks for holds no
directive, has white space only singly and inside, and is itself read as this text with the same
references. -/
theorem Prompt.request_reads_as_itself (text : String) :
    (Directive.AllReadable text.toList →
      (Prompt.parse text = .error .emptyPrompt ↔
        ∀ i c, text.toList[i]? = some c → ¬ Directive.Holds text.toList i →
          ¬ Reference.Holds text.toList i → Text.isBlank c = true)) ∧
    ∀ prompt, Prompt.parse text = .ok prompt →
      ¬ Directive.opening <:+: Text.lower prompt.requestText.toList ∧
      Text.IsTidy prompt.requestText.toList ∧
      Prompt.parse prompt.requestText = .ok
        { displayText := prompt.requestText
          requestText := prompt.requestText
          size := none
          references := prompt.references } := by
  constructor
  · intro readable
    obtain ⟨⟨stripped, size?⟩, extracted⟩ := Directive.exists_extract readable
    have strips := Directive.strips_of_extract extracted
    have empty : Prompt.parse text = .error .emptyPrompt ↔ ¬ Bare true text.toList := by
      rw [← any_isWord_iff (reads_of_strips strips true), Prompt.parse, extracted,
        ← Reference.tokens, ← Reference.hasWords]
      dsimp only
      split
      · next words => simp [words]
      · next none => simp [none]
    rw [empty]
    constructor
    · intro covered i c here outside apart
      by_contra solid
      refine covered ⟨i, c, here, ?_, by simpa using solid⟩
      rw [covered_iff, not_or]
      exact ⟨outside, apart⟩
    · rintro blank ⟨i, c, here, uncovered, solid⟩
      rw [covered_iff, not_or] at uncovered
      rw [blank i c here uncovered.1 uncovered.2] at solid
      cases solid
  · intro prompt read
    unfold Prompt.parse at read
    split at read
    · cases read
    · next stripped size? extracted =>
      split at read
      · next words =>
        obtain rfl := Except.ok.inj read
        have same := Text.words_collapse stripped
        have plain : ¬ Directive.opening <:+: Text.lower (Text.collapse stripped) := fun opens =>
          (Directive.strips_of_extract extracted).not_isInfix
            (Directive.isInfix_lower_of_words same opens)
        have again : Reference.hasWords (Text.collapse stripped) = true := by
          rwa [Reference.hasWords_eq_of_words same]
        simp only [String.toList_ofList]
        refine ⟨plain, Text.isTidy_collapse stripped, ?_⟩
        rw [Prompt.parse_of_not_isInfix (by rwa [String.toList_ofList])
          (by rwa [String.toList_ofList]), String.toList_ofList, Text.collapse_collapse,
          Reference.ids_eq_of_words same]
      · cases read

theorem Prompt.request_reads_as_itself_of_fox :
    Prompt.parse "(@Size: 8x8) @img1" = .error .emptyPrompt ∧
    ∃ prompt, Prompt.parse "fox  @img1" = .ok prompt ∧
      Text.IsTidy prompt.requestText.toList ∧
      Prompt.parse prompt.requestText = .ok
        { displayText := prompt.requestText
          requestText := prompt.requestText
          size := none
          references := prompt.references } := by
  constructor
  · have whole : "(@Size: 8x8) @img1".toList =
        "(@Size".toList ++ (": 8x8".toList ++ ')' :: " @img1".toList) := by decide
    have parsed : Size.parse (Directive.value ": 8x8".toList) = .ok ⟨8, 8⟩ := by decide
    have plain : '(' ∉ " @img1".toList := by decide
    have later := Directive.strips_of_extract
      (Directive.extract_of_not_isInfix (Directive.not_isInfix_of_notMem plain))
    have strips : Directive.Strips "(@Size: 8x8) @img1".toList (' ' :: " @img1".toList) := by
      rw [whole]
      exact .directive (by decide) (by decide) parsed later
    have directive : Directive.IsDirective ("(@Size".toList ++ (": 8x8".toList ++ [')'])) :=
      .intro (by decide) (by decide) parsed
    have stands :
        Reference.Stands "(@Size: 8x8) @img1".toList "(@Size: 8x8) ".toList 1 ['1'] [] := by
      constructor
      case toSpelled => constructor <;> simp [Text.numeralValue, Text.digitValue, Text.max32]
      case text => decide
      case apart => simp
    refine ((Prompt.request_reads_as_itself "(@Size: 8x8) @img1").1 strips.allReadable).mpr ?_
    intro i c here outside apart
    have before : ¬ i < 12 := by
      intro inside
      have long : ("(@Size".toList ++ (": 8x8".toList ++ [')'])).length = 12 := by decide
      refine outside ⟨[], _, " @img1".toList, ?_, directive, Nat.zero_le _, ?_⟩
      · rw [whole]
        simp only [List.append_assoc, List.nil_append, List.singleton_append]
      · rwa [long, List.length_nil, Nat.zero_add]
    have behind : ¬ 13 ≤ i := by
      intro inside
      have size : "(@Size: 8x8) @img1".toList.length = 18 := by decide
      have long : "(@Size: 8x8) ".toList.length = 13 := by decide
      have short : (Reference.opening ++ ['1']).length = 5 := by decide
      have within := (List.getElem?_eq_some_iff.mp here).1
      refine apart ⟨_, _, _, _, stands, ?_, ?_⟩ <;> omega
    obtain rfl : i = 12 := by omega
    have space : "(@Size: 8x8) @img1".toList[12]? = some ' ' := by decide
    rw [space] at here
    obtain rfl : ' ' = c := Option.some.inj here
    decide
  · have plain : '(' ∉ "fox  @img1".toList := by decide
    have words : Reference.hasWords "fox  @img1".toList = true := by
      have whole : "fox  @img1".toList = "fox  ".toList ++ "@img1".toList := by decide
      rw [Reference.hasWords, Reference.tokens, whole,
        Reference.tokensFrom_append_of_notMem true (by decide), List.any_append]
      exact Bool.or_eq_true_iff.mpr (.inl (by decide))
    have read := Prompt.parse_of_not_isInfix (Directive.not_isInfix_of_notMem plain) words
    exact ⟨_, read, ((Prompt.request_reads_as_itself "fox  @img1").2 _ read).2⟩

end PromptCanvas

import PromptCanvas.Prompt.Directive
import PromptCanvas.Proofs.Size.Spelling

/-!
What is left of a text without its size directives.

A directive that can be read holds no second one, so the directives of a text stand apart, and the
spaces in their places keep what stands around them from growing together.
-/

set_option autoImplicit false
set_option relaxedAutoImplicit false

namespace PromptCanvas

section Sizes

variable {cs : List Char} {size : Size} {c : Char}

/-- A character that no size is written with, neither as part of a side nor beside one. -/
def Size.isForeign (c : Char) : Bool :=
  !(Text.isBlank c || c.isDigit || c = '+' || isSeparator c)

private theorem Size.Spells.notMem {side : Nat} (spells : Spells side cs)
    (foreign : isForeign c = true) : c ∉ cs := by
  intro mem
  rw [isForeign, Bool.not_eq_true', ← Bool.not_eq_true] at foreign
  apply foreign
  rcases spells.isBlank_or mem with blank | plus | digit
  · simp [blank]
  · simp [plus]
  · simp [digit]

theorem Size.notMem_of_parse (foreign : isForeign c = true) (read : parse cs = .ok size) :
    c ∉ cs := by
  obtain ⟨⟨wide, separator, high, rfl, left, sign, right⟩, -⟩ := parse_eq_ok_iff.mp read
  have between := isSeparator_eq_true_iff.mpr sign
  rw [List.mem_append, List.mem_cons, not_or, not_or]
  refine ⟨left.notMem foreign, ?_, right.notMem foreign⟩
  rintro rfl
  rw [isForeign, between, Bool.or_true] at foreign
  cases foreign

end Sizes

namespace Directive

theorem notMem_of_value {inner : List Char} {size : Size}
    (read : Size.parse (value inner) = .ok size) : '@' ∉ inner := by
  intro mem
  have none := Size.notMem_of_parse (c := '@') (by decide) read
  have behind := Text.mem_trimStart mem (by decide)
  unfold value at none
  split at none
  · next colon =>
    rw [colon] at behind
    exact none ((List.mem_cons.mp behind).resolve_left (by decide))
  · exact none mem

/-- All directives of a text can be read: wherever one opens, in any case, a closing parenthesis
follows, and a size stands before the first one. -/
def AllReadable (cs : List Char) : Prop :=
  ∀ before opened after, cs = before ++ (opened ++ after) → Text.lower opened = opening →
    ∃ inner rest, after = inner ++ ')' :: rest ∧ ')' ∉ inner ∧
      ∃ size, Size.parse (value inner) = .ok size

/-- The text of a directive that can be read. -/
inductive IsDirective : List Char → Prop
  | intro {opened inner : List Char} {size : Size} :
    Text.lower opened = opening → ')' ∉ inner → Size.parse (value inner) = .ok size →
    IsDirective (opened ++ (inner ++ [')']))

inductive Strips : List Char → List Char → Prop
  | nil : Strips [] []
  | char {c : Char} {cs s : List Char} :
    opens (c :: cs) = false → Strips cs s → Strips (c :: cs) (c :: s)
  | directive {opened inner after s : List Char} {size : Size} :
    Text.lower opened = opening → ')' ∉ inner → Size.parse (value inner) = .ok size →
    Strips after s → Strips (opened ++ (inner ++ ')' :: after)) (' ' :: s)

section Opening

variable {cs opened inner' after : List Char} {c : Char}

theorem length_of_lower (spelled : Text.lower opened = opening) :
    opened.length = opening.length := by
  rw [← spelled, Text.lower, List.length_map]

private theorem opens_eq_true_iff_begins : opens cs = true ↔ opening <+: Text.lower cs := by
  rw [opens, Text.startsWithIgnoringCase, List.isPrefixOf_iff_prefix, Text.lower, List.map_take,
    List.prefix_take_iff, ← Text.lower]
  exact and_iff_left le_rfl

theorem opens_eq_true_iff :
    opens cs = true ↔ ∃ opened after, cs = opened ++ after ∧ Text.lower opened = opening := by
  rw [opens_eq_true_iff_begins]
  constructor
  · intro front
    refine ⟨cs.take opening.length, cs.drop opening.length, (List.take_append_drop _ _).symm, ?_⟩
    rw [Text.lower, List.map_take, ← Text.lower]
    exact (List.prefix_iff_eq_take.mp front).symm
  · rintro ⟨opened, after, rfl, spelled⟩
    rw [Text.lower, List.map_append, ← Text.lower, spelled]
    exact List.prefix_append _ _

theorem opens_append (spelled : Text.lower opened = opening) (after : List Char) :
    opens (opened ++ after) = true :=
  opens_eq_true_iff.mpr ⟨opened, after, rfl, spelled⟩

theorem inner_eq (spelled : Text.lower opened = opening) (open' : ')' ∉ inner') :
    inner (opened ++ (inner' ++ ')' :: after)) = inner' := by
  rw [inner, ← length_of_lower spelled, List.drop_left, List.takeWhile_append_of_pos]
  · simp
  · intro c mem
    exact decide_eq_true fun same => open' (same ▸ mem)

theorem closing_eq (spelled : Text.lower opened = opening) (open' : ')' ∉ inner') :
    closing (opened ++ (inner' ++ ')' :: after)) = ')' :: after := by
  rw [closing, ← length_of_lower spelled, List.drop_left, List.dropWhile_append_of_pos]
  · simp
  · intro c mem
    exact decide_eq_true fun same => open' (same ▸ mem)

private theorem parts_of_opens (opened : opens cs = true) (closed : closing cs = c :: after) :
    ∃ front, cs = front ++ (inner cs ++ ')' :: after) ∧ Text.lower front = opening ∧
      ')' ∉ inner cs := by
  obtain ⟨front, back, whole, spelled⟩ := opens_eq_true_iff.mp opened
  have rest : cs.drop opening.length = back := by
    rw [whole, ← length_of_lower spelled, List.drop_left]
  have stops := List.head?_dropWhile_not (· ≠ ')') back
  have parts := List.takeWhile_append_dropWhile (p := fun c => decide (c ≠ ')')) (l := back)
  rw [closing, rest] at closed
  rw [closed] at stops parts
  obtain rfl : c = ')' := by simpa using stops
  refine ⟨front, ?_, spelled, ?_⟩
  · rw [inner, rest, parts, whole]
  · rw [inner, rest]
    intro mem
    simpa using List.mem_takeWhile_imp mem

end Opening

section Shape

variable {opened part other rest after before : List Char} {c : Char}

theorem opening_shape (spelled : Text.lower opened = opening) :
    ∃ size, opened = '(' :: '@' :: size ∧ Text.lower size = "size".toList := by
  have shape : opening = '(' :: '@' :: "size".toList := by decide
  rw [shape] at spelled
  obtain ⟨a, more, rfl, first, later⟩ := List.map_eq_cons_iff.mp spelled
  obtain ⟨b, size, rfl, second, word⟩ := List.map_eq_cons_iff.mp later
  obtain rfl := Text.eq_of_toLower first (by decide)
  obtain rfl := Text.eq_of_toLower second (by decide)
  exact ⟨size, rfl, word⟩

theorem IsDirective.shape (directive : IsDirective part) :
    ∃ tail, part = '(' :: '@' :: (tail ++ [')']) ∧ '@' ∉ tail ∧ tail ≠ [] ∧ 'i' ∉ tail.head? := by
  obtain @⟨opened, inner, size, spelled, shut, parsed⟩ := directive
  obtain ⟨word, rfl, letters⟩ := opening_shape spelled
  refine ⟨word ++ inner, by simp, ?_, ?_, ?_⟩
  · intro mem
    rcases List.mem_append.mp mem with sign | sign
    · have other := List.mem_map_of_mem (f := Char.toLower) sign
      rw [← Text.lower, letters] at other
      exact absurd other (by decide)
    · exact notMem_of_value parsed sign
  · rintro none
    obtain ⟨rfl, -⟩ := List.append_eq_nil_iff.mp none
    cases letters
  · obtain ⟨a, more, rfl, first, -⟩ := List.map_eq_cons_iff.mp letters
    intro mem
    obtain rfl : a = 'i' := Option.some.inj mem
    exact absurd first (by decide)

theorem IsDirective.unique (directive : IsDirective part)
    (directive' : IsDirective other) (whole : part ++ rest = other ++ after) : part = other := by
  obtain @⟨opened, within, size, spelled, shut, parsed⟩ := directive
  obtain @⟨opened', within', size', spelled', shut', parsed'⟩ := directive'
  simp only [List.append_assoc, List.singleton_append] at whole
  have same : Directive.inner (opened ++ (within ++ ')' :: rest)) = within := inner_eq spelled shut
  rw [whole, inner_eq spelled' shut'] at same
  have long : opened.length = opened'.length := by
    rw [length_of_lower spelled, length_of_lower spelled']
  rw [same, (List.append_inj whole long).1]

theorem IsDirective.length_le (directive : IsDirective part) (spelled : Text.lower opened = opening)
    (whole : part ++ rest = c :: before ++ (opened ++ after)) :
    part.length ≤ before.length + 1 := by
  obtain ⟨tail, rfl, none, -⟩ := directive.shape
  obtain ⟨word, rfl, -⟩ := opening_shape spelled
  have behind := (List.cons.inj whole).2
  cases before with
  | nil => exact absurd (List.cons.inj behind).1 (by decide)
  | cons d before =>
    have cut : tail ++ [')'] ++ rest = before ++ ['('] ++ '@' :: (word ++ after) := by
      simpa using (List.cons.inj behind).2
    have beyond := Text.length_le_of_notMem (by simpa using none) cut
    have apart : tail.length ≠ before.length := by
      intro long
      rw [List.append_assoc, List.append_assoc] at cut
      exact absurd (List.cons.inj (List.append_inj cut long).2).1 (by decide)
    simp only [List.length_cons, List.length_append, List.length_nil] at beyond ⊢
    omega

end Shape

section Extraction

variable {cs s : List Char} {size? : Option Size}

theorem strips_of_extract (read : extract cs = .ok (s, size?)) : Strips cs s := by
  fun_induction extract cs generalizing s size? with
  | case1 => cases read
  | case2 => cases read
  | case3 => cases read
  | case4 cs opened c after closed size parsed text size' rest ih =>
    obtain ⟨rfl, -⟩ := Prod.mk.inj (Except.ok.inj read)
    obtain ⟨front, whole, spelled, inside⟩ := parts_of_opens opened closed
    rw [whole]
    exact .directive spelled inside parsed (ih rest)
  | case5 opened =>
    obtain ⟨rfl, -⟩ := Prod.mk.inj (Except.ok.inj read)
    exact .nil
  | case6 => cases read
  | case7 c rest text size' later opened ih =>
    obtain ⟨rfl, -⟩ := Prod.mk.inj (Except.ok.inj read)
    exact .char (by simpa using opened) (ih later)

private theorem AllReadable.of_append (front : List Char) {rest : List Char}
    (readable : AllReadable (front ++ rest)) : AllReadable rest := by
  intro before opened after whole
  refine readable (front ++ before) opened after ?_
  rw [whole, List.append_assoc]

private theorem AllReadable.of_opens (readable : AllReadable cs) (opened : opens cs = true) :
    ∃ c after size, closing cs = c :: after ∧ Size.parse (value (inner cs)) = .ok size := by
  obtain ⟨front, back, rfl, spelled⟩ := opens_eq_true_iff.mp opened
  obtain ⟨inside, rest, rfl, shut, size, parsed⟩ := readable [] front back rfl spelled
  refine ⟨')', rest, size, closing_eq spelled shut, ?_⟩
  rwa [inner_eq spelled shut]

theorem exists_extract (readable : AllReadable cs) : ∃ left, extract cs = .ok left := by
  fun_induction extract cs with
  | case1 cs opened closed =>
    obtain ⟨c, after, size, some, -⟩ := readable.of_opens opened
    rw [closed] at some
    cases some
  | case2 cs opened c after closed e unread =>
    obtain ⟨-, -, size, -, parsed⟩ := readable.of_opens opened
    rw [unread] at parsed
    cases parsed
  | case3 cs opened c after closed size parsed e failed ih =>
    obtain ⟨front, whole, -⟩ := parts_of_opens opened closed
    have later : AllReadable after := by
      refine AllReadable.of_append (front ++ (inner cs ++ [')'])) ?_
      rw [List.append_assoc, List.append_assoc, List.singleton_append, ← whole]
      exact readable
    obtain ⟨left, done⟩ := ih later
    rw [failed] at done
    cases done
  | case4 => exact ⟨_, rfl⟩
  | case5 => exact ⟨_, rfl⟩
  | case6 c rest e failed opened ih =>
    obtain ⟨left, done⟩ := ih (AllReadable.of_append [c] readable)
    rw [failed] at done
    cases done
  | case7 => exact ⟨_, rfl⟩

theorem Strips.allReadable (strips : Strips cs s) : AllReadable cs := by
  induction strips with
  | nil =>
    intro before opened after whole spelled
    obtain ⟨-, none⟩ := List.append_eq_nil_iff.mp whole.symm
    obtain ⟨rfl, -⟩ := List.append_eq_nil_iff.mp none
    cases spelled
  | char shut strips ih =>
    intro before opened after whole spelled
    cases before with
    | nil =>
      rw [whole, List.nil_append, opens_append spelled] at shut
      cases shut
    | cons d before => exact ih before opened after (List.cons.inj whole).2 spelled
  | @directive opened inner after s size spelled shut parsed strips ih =>
    intro before opened' after' whole spelled'
    cases before with
    | nil =>
      have long : opened.length = opened'.length := by
        rw [length_of_lower spelled, length_of_lower spelled']
      rw [List.nil_append] at whole
      obtain ⟨-, rfl⟩ := List.append_inj whole long
      exact ⟨inner, after, rfl, shut, size, parsed⟩
    | cons d before =>
      have cut : opened ++ (inner ++ [')']) ++ after = d :: before ++ (opened' ++ after') := by
        rw [← whole]
        simp
      have beyond := (IsDirective.intro spelled shut parsed).length_le spelled' cut
      obtain ⟨more, same⟩ : opened ++ (inner ++ [')']) <+: d :: before :=
        List.prefix_of_prefix_length_le ⟨after, rfl⟩ ⟨opened' ++ after', cut.symm⟩ beyond
      rw [← same, List.append_assoc _ more, List.append_cancel_left_eq] at cut
      exact ih more opened' after' cut spelled'

theorem extract_of_not_isInfix (plain : ¬ opening <:+: Text.lower cs) :
    extract cs = .ok (cs, none) := by
  induction cs with
  | nil =>
    have shut : ¬ opens [] = true := by decide
    rw [extract, if_neg shut]
  | cons c cs ih =>
    have shut : ¬ opens (c :: cs) = true := fun opened =>
      plain (opens_eq_true_iff_begins.mp opened).isInfix
    have later : ¬ opening <:+: Text.lower cs := fun inside =>
      plain (List.infix_cons inside)
    rw [extract, if_neg shut, ih later]

theorem not_isInfix_of_notMem (plain : '(' ∉ cs) : ¬ opening <:+: Text.lower cs := by
  intro inside
  obtain ⟨c, mem, same⟩ := List.mem_map.mp (inside.subset List.mem_cons_self)
  obtain rfl := Text.eq_of_toLower same (by decide)
  exact plain mem

private theorem Strips.begins {front : List Char} (strips : Strips cs s) (solid : ' ' ∉ front)
    (begins : front <+: Text.lower s) : front <+: Text.lower cs := by
  induction strips generalizing front with
  | nil => exact begins
  | char opened strips ih =>
    cases front with
    | nil => exact List.nil_prefix
    | cons d front =>
      obtain ⟨rfl, later⟩ := List.cons_prefix_cons.mp begins
      have behind := ih (fun mem => solid (List.mem_cons_of_mem _ mem)) later
      exact List.cons_prefix_cons.mpr ⟨rfl, behind⟩
  | directive spelled shut parsed strips ih =>
    cases front with
    | nil => exact List.nil_prefix
    | cons d front =>
      obtain ⟨rfl, -⟩ := List.cons_prefix_cons.mp begins
      exact absurd List.mem_cons_self solid

theorem Strips.not_isInfix (strips : Strips cs s) : ¬ opening <:+: Text.lower s := by
  have solid : ' ' ∉ opening := by decide
  induction strips with
  | nil => decide
  | @char c cs s shut strips ih =>
    rw [Text.lower, List.map_cons, List.infix_cons_iff, ← Text.lower, not_or]
    refine ⟨fun begins => ?_, ih⟩
    have opened := (Strips.char shut strips).begins solid begins
    rw [opens_eq_true_iff_begins.mpr opened] at shut
    cases shut
  | directive spelled shut parsed strips ih =>
    rw [Text.lower, List.map_cons, List.infix_cons_iff, ← Text.lower, not_or]
    refine ⟨fun begins => ?_, ih⟩
    have same := (List.cons_prefix_cons.mp begins).1
    exact absurd same (by decide)

end Extraction

end Directive

end PromptCanvas

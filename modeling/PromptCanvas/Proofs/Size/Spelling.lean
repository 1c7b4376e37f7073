import PromptCanvas.Size
import PromptCanvas.Proofs.Text.Numeral
import PromptCanvas.Proofs.Text.Trim
import PromptCanvas.Proofs.Text.Words

set_option autoImplicit false
set_option relaxedAutoImplicit false

namespace PromptCanvas.Size

variable {cs : List Char} {s : Size} {side : Nat} {c : Char}

section Sides

/-- A side as it may be written: a numeral, with white space around it or without. -/
def Spells (side : Nat) (cs : List Char) : Prop :=
  ∃ before numeral after, cs = before ++ (numeral ++ after) ∧ Text.IsNumeral side numeral ∧
    (∀ c ∈ before, Text.isBlank c = true) ∧ ∀ c ∈ after, Text.isBlank c = true

theorem spells_toDigits (side : Nat) : Spells side (Nat.toDigits 10 side) :=
  ⟨[], _, [], by simp, Text.isNumeral_toDigits side, by simp, by simp⟩

theorem Spells.isBlank_or (spells : Spells side cs) (mem : c ∈ cs) :
    Text.isBlank c = true ∨ c = '+' ∨ c.isDigit = true := by
  obtain ⟨before, numeral, after, rfl, written, front, back⟩ := spells
  rw [List.mem_append, List.mem_append] at mem
  rcases mem with mem | mem | mem
  · exact .inl (front c mem)
  · exact .inr (written.eq_or_isDigit c mem)
  · exact .inl (back c mem)

private theorem not_isBlank_of_isNumeral (numeral : Text.IsNumeral side cs) :
    ∀ c ∈ cs, Text.isBlank c = false := by
  intro c mem
  rcases numeral.eq_or_isDigit c mem with rfl | digit
  · decide
  · rw [Bool.eq_false_iff]
    intro blank
    have other := Text.isAlphanum_of_isBlank blank
    rw [Char.isAlphanum, digit, Bool.or_true] at other
    cases other

private theorem spells_iff : Spells side cs ↔ Text.IsNumeral side (Text.trim cs) := by
  constructor
  · rintro ⟨before, numeral, after, rfl, written, front, back⟩
    rwa [Text.trim_append front, Text.trim_append_right back,
      Text.trim_eq_self_of_solid (not_isBlank_of_isNumeral written)]
  · intro written
    obtain ⟨before, after, parts, front, back⟩ := Text.exists_trim cs
    exact ⟨before, Text.trim cs, after, parts, written, front, back⟩

private theorem side?_eq_some_iff :
    side? cs = some side ↔ Spells side cs ∧ 0 < side ∧ side ≤ Text.max32 := by
  rw [spells_iff, and_comm (a := 0 < side), ← and_assoc, ← Text.unsigned?_eq_some_iff]
  unfold side?
  split
  · next zero =>
    constructor
    · intro none
      cases none
    · rintro ⟨read, positive⟩
      rw [zero] at read
      cases read
      exact absurd positive (Nat.lt_irrefl 0)
  · next other =>
    constructor
    · intro read
      refine ⟨read, Nat.pos_of_ne_zero ?_⟩
      rintro rfl
      exact other read
    · exact And.left

private theorem side?_append_left {blank : List Char} (all : ∀ c ∈ blank, Text.isBlank c = true) :
    side? (blank ++ cs) = side? cs := by
  rw [side?, Text.trim_append all, side?]

private theorem side?_append_right {blank : List Char} (all : ∀ c ∈ blank, Text.isBlank c = true) :
    side? (cs ++ blank) = side? cs := by
  rw [side?, Text.trim_append_right all, side?]

end Sides

section Separators

variable {wide high : List Char} {separator : Char}

theorem isSeparator_eq_true_iff : isSeparator c = true ↔ c ∈ ['x', 'X', '×', '*'] := by
  simp [isSeparator, or_assoc]

private theorem isSeparator_of_isBlank (blank : Text.isBlank c = true) : isSeparator c = false := by
  have solid : ∀ d ∈ ['x', 'X', '×', '*'], Text.isBlank d = false := by
    simp [Text.isBlank, Text.blankRanges]
  rw [Bool.eq_false_iff]
  intro between
  rw [solid c (isSeparator_eq_true_iff.mp between)] at blank
  cases blank

private theorem Spells.isSeparator_eq_false (spells : Spells side cs) :
    ∀ c ∈ cs, isSeparator c = false := by
  have apart : ∀ d ∈ ['x', 'X', '×', '*'], ¬ (d = '+' ∨ d.isDigit = true) := by simp
  intro c mem
  rcases spells.isBlank_or mem with blank | written
  · exact isSeparator_of_isBlank blank
  · rw [Bool.eq_false_iff]
    intro between
    exact apart c (isSeparator_eq_true_iff.mp between) written

private theorem exists_separator (cs : List Char) :
    (∀ c ∈ cs, isSeparator c = false) ∨
      ∃ wide separator high, cs = wide ++ separator :: high ∧
        (∀ c ∈ wide, isSeparator c = false) ∧ isSeparator separator = true := by
  have parts := List.takeWhile_append_dropWhile (p := fun c => !isSeparator c) (l := cs)
  have stops := List.head?_dropWhile_not (fun c => !isSeparator c) cs
  have before : ∀ c ∈ cs.takeWhile fun c => !isSeparator c, isSeparator c = false := fun c mem =>
    (Bool.not_eq_true' _).mp (List.mem_takeWhile_imp (p := fun c => !isSeparator c) mem)
  cases behind : cs.dropWhile fun c => !isSeparator c with
  | nil =>
    rw [behind, List.append_nil] at parts
    rw [parts] at before
    exact .inl before
  | cons separator high =>
    rw [behind] at parts stops
    exact .inr ⟨_, separator, high, parts.symm, before, (Bool.not_eq_false' _).mp stops⟩

private theorem ofTrimmed?_eq_none (out : ∀ c ∈ cs, isSeparator c = false) :
    ofTrimmed? cs = none := by
  have gone : (cs.dropWhile fun c => !isSeparator c) = [] :=
    List.dropWhile_eq_nil_iff.mpr fun c mem => by rw [out c mem]; rfl
  rw [ofTrimmed?, gone]

private theorem ofTrimmed?_eq_some_iff (out : ∀ c ∈ wide, isSeparator c = false)
    (between : isSeparator separator = true) :
    ofTrimmed? (wide ++ separator :: high) = some s ↔
      side? wide = some s.w ∧ side? high = some s.h := by
  have all : ∀ c ∈ wide, (!isSeparator c) = true := fun c mem => by rw [out c mem]; rfl
  have front : ((wide ++ separator :: high).takeWhile fun c => !isSeparator c) = wide := by
    rw [List.takeWhile_append_of_pos all, List.takeWhile_cons_of_neg (by simp [between]),
      List.append_nil]
  have behind : ((wide ++ separator :: high).dropWhile fun c => !isSeparator c) =
      separator :: high := by
    rw [List.dropWhile_append_of_pos all, List.dropWhile_cons_of_neg (by simp [between])]
  simp only [ofTrimmed?, front, behind]
  constructor
  · intro read
    split at read
    · next w h across down =>
      obtain rfl := Option.some.inj read
      exact ⟨across, down⟩
    · cases read
  · rintro ⟨across, down⟩
    simp only [across, down]

private theorem ofTrimmed?_trim_eq_some_iff :
    ofTrimmed? (Text.trim cs) = some s ↔ ofTrimmed? cs = some s := by
  obtain ⟨before, after, parts, front, back⟩ := Text.exists_trim cs
  have outside {blank : List Char} (all : ∀ c ∈ blank, Text.isBlank c = true) :
      ∀ c ∈ blank, isSeparator c = false := fun c mem => isSeparator_of_isBlank (all c mem)
  rcases exists_separator (Text.trim cs) with out | ⟨wide, separator, high, split, out, between⟩
  · have nowhere : ∀ c ∈ cs, isSeparator c = false := by
      rw [parts]
      exact List.forall_mem_append.mpr
        ⟨outside front, List.forall_mem_append.mpr ⟨out, outside back⟩⟩
    rw [ofTrimmed?_eq_none out, ofTrimmed?_eq_none nowhere]
  · have whole : cs = (before ++ wide) ++ separator :: (high ++ after) := by
      rw [parts, split]
      simp
    have still : ∀ c ∈ before ++ wide, isSeparator c = false :=
      List.forall_mem_append.mpr ⟨outside front, out⟩
    rw [split, ofTrimmed?_eq_some_iff out between, whole, ofTrimmed?_eq_some_iff still between,
      side?_append_left front, side?_append_right back]

end Separators

private theorem parse_eq_ok_iff_ofTrimmed? : parse cs = .ok s ↔ ofTrimmed? cs = some s := by
  rw [← ofTrimmed?_trim_eq_some_iff, parse]
  cases ofTrimmed? (Text.trim cs) <;> simp

/-- The texts that are read as a size are its sides, as they may be written, around a separator. -/
theorem parse_eq_ok_iff :
    parse cs = .ok s ↔
      (∃ wide separator high, cs = wide ++ separator :: high ∧ Spells s.w wide ∧
        separator ∈ ['x', 'X', '×', '*'] ∧ Spells s.h high) ∧
      (0 < s.w ∧ 0 < s.h) ∧ s.w ≤ Text.max32 ∧ s.h ≤ Text.max32 := by
  rw [parse_eq_ok_iff_ofTrimmed?]
  constructor
  · intro read
    rcases exists_separator cs with out | ⟨wide, separator, high, rfl, out, between⟩
    · rw [ofTrimmed?_eq_none out] at read
      cases read
    · obtain ⟨across, down⟩ := (ofTrimmed?_eq_some_iff out between).mp read
      obtain ⟨left, broad, fits⟩ := side?_eq_some_iff.mp across
      obtain ⟨right, tall, holds⟩ := side?_eq_some_iff.mp down
      have sign := isSeparator_eq_true_iff.mp between
      exact ⟨⟨wide, separator, high, rfl, left, sign, right⟩, ⟨broad, tall⟩, fits, holds⟩
  · rintro ⟨⟨wide, separator, high, rfl, left, sign, right⟩, ⟨broad, tall⟩, fits, holds⟩
    have between := isSeparator_eq_true_iff.mpr sign
    have across := side?_eq_some_iff.mpr ⟨left, broad, fits⟩
    have down := side?_eq_some_iff.mpr ⟨right, tall, holds⟩
    exact (ofTrimmed?_eq_some_iff left.isSeparator_eq_false between).mpr ⟨across, down⟩

theorem toList_text (s : Size) :
    s.text.toList = Nat.toDigits 10 s.w ++ 'x' :: Nat.toDigits 10 s.h := by
  simp [text, toString, Nat.repr]

end PromptCanvas.Size

import Mathlib.Data.List.Chain
import Mathlib.Data.List.TakeWhile
import PromptCanvas.Proofs.Text.Numeral
import PromptCanvas.Text.Blank

set_option autoImplicit false
set_option relaxedAutoImplicit false

namespace PromptCanvas.Text

structure IsWord (w : List Char) : Prop where
  nonempty : w ≠ []
  solid : ∀ c ∈ w, isBlank c = false

/-- A text without white space at its ends, and nowhere two of it side by side. -/
structure IsTidy (cs : List Char) : Prop where
  first : ∀ c ∈ cs.head?, isBlank c = false
  last : ∀ c ∈ cs.getLast?, isBlank c = false
  single : cs.IsChain fun a b => isBlank a = false ∨ isBlank b = false

section Parts

theorem exists_between {β : Type} {part after front more : List β} {b : β} (out : b ∉ part)
    (eq : part ++ after = front ++ b :: more) :
    ∃ between, front = part ++ between ∧ after = between ++ b :: more := by
  rcases List.append_eq_append_iff.mp eq with ⟨between, rfl, rfl⟩ | ⟨between, rfl, same⟩
  · exact ⟨between, rfl, rfl⟩
  · cases between with
    | nil => exact ⟨[], by simp, same.symm⟩
    | cons c between =>
      obtain ⟨rfl, -⟩ := List.cons.inj same
      exact absurd (List.mem_append_right _ List.mem_cons_self) out

theorem length_le_of_notMem {β : Type} {part after front more : List β} {b : β} (out : b ∉ part)
    (eq : part ++ after = front ++ b :: more) : part.length ≤ front.length := by
  obtain ⟨between, rfl, -⟩ := exists_between out eq
  simp

private theorem isInfix_append_cons_iff {β : Type} {part front back : List β} {b : β}
    (some : part ≠ [])
    (out : b ∉ part) : part <:+: front ++ b :: back ↔ part <:+: front ∨ part <:+: back := by
  constructor
  · rintro ⟨before, after, whole⟩
    rw [List.append_assoc] at whole
    rcases List.append_eq_append_iff.mp whole with ⟨more, rfl, later⟩ | ⟨more, rfl, later⟩
    · obtain ⟨between, rfl, -⟩ := exists_between out later
      exact .inl ⟨before, between, List.append_assoc _ _ _⟩
    · cases more with
      | nil =>
        obtain ⟨c, part, rfl⟩ := List.exists_cons_of_ne_nil some
        obtain ⟨rfl, -⟩ := List.cons.inj later
        exact absurd List.mem_cons_self out
      | cons c more =>
        obtain ⟨-, rfl⟩ := List.cons.inj later
        exact .inr ⟨more, after, List.append_assoc _ _ _⟩
  · rintro (⟨before, after, rfl⟩ | ⟨before, after, rfl⟩)
    · exact ⟨before, after ++ b :: back, by simp⟩
    · exact ⟨front ++ b :: before, after, by simp⟩

end Parts

variable {cs w p : List Char} {c : Char} {ws : List (List Char)}

section Words

theorem isAlphanum_of_isBlank (blank : isBlank c = true) : c.isAlphanum = false := by
  rw [Bool.eq_false_iff, Ne, isAlphanum_eq_true_iff, isDigit_eq_true_iff]
  simp only [isBlank, blankRanges, List.any_cons, List.any_nil, Bool.or_false, Bool.or_eq_true,
    Bool.and_eq_true, decide_eq_true_eq] at blank
  omega

theorem toLower_of_not_isUpper (other : ¬ c.isUpper = true) : c.toLower = c := by
  unfold Char.isUpper at other
  unfold Char.toLower
  rw [dif_neg]
  simpa using other

theorem toLower_of_isBlank (blank : isBlank c = true) : c.toLower = c := by
  have other := isAlphanum_of_isBlank blank
  unfold Char.isAlphanum Char.isAlpha at other
  rw [Bool.or_eq_false_iff, Bool.or_eq_false_iff] at other
  exact toLower_of_not_isUpper (by simp [other.1.1])

theorem eq_of_toLower {d : Char} (same : c.toLower = d) (other : d.isLower = false) : c = d := by
  unfold Char.toLower at same
  split at same
  · next upper =>
    subst same
    unfold Char.isLower at other
    simp only [Bool.and_eq_false_iff, decide_eq_false_iff_not, ge_iff_le,
      UInt32.le_iff_toNat_le, UInt32.toNat_add, Char.reduceVal, UInt32.reduceToNat,
      UInt32.reduceSub, Nat.reducePow, Nat.not_le] at other upper
    omega
  · exact same

private theorem IsWord.notMem (word : IsWord w) (blank : isBlank c = true) : c ∉ w := by
  intro mem
  rw [word.solid c mem] at blank
  cases blank

theorem words_nil : words [] = [] := rfl

theorem words_cons_of_blank (blank : isBlank c = true) (cs : List Char) :
    words (c :: cs) = words cs := by
  rw [words, wordsFrom, if_pos blank]
  rfl

private theorem wordsFrom_append (solid : ∀ c ∈ w, isBlank c = false) (read cs : List Char) :
    wordsFrom read (w ++ cs) = wordsFrom (w.reverse ++ read) cs := by
  induction w generalizing read with
  | nil => rfl
  | cons c w ih =>
    obtain ⟨first, others⟩ := List.forall_mem_cons.mp solid
    rw [List.cons_append, wordsFrom, if_neg (by simp [first]), ih others]
    simp

theorem IsWord.words_eq (word : IsWord w) : words w = [w] := by
  have read := wordsFrom_append word.solid [] []
  rw [List.append_nil] at read
  rw [words, read]
  simp [wordsFrom, word.nonempty]

theorem IsWord.words_append_cons (word : IsWord w) (blank : isBlank c = true) (cs : List Char) :
    words (w ++ c :: cs) = w :: words cs := by
  rw [words, wordsFrom_append word.solid, wordsFrom, if_pos blank]
  simp [word.nonempty, words]

theorem words_induction {motive : List Char → Prop} (nil : motive [])
    (blank : ∀ c cs, isBlank c = true → motive cs → motive (c :: cs))
    (last : ∀ w, IsWord w → motive w)
    (word : ∀ w c cs, IsWord w → isBlank c = true → motive cs → motive (w ++ c :: cs))
    (cs : List Char) : motive cs := by
  induction length : cs.length using Nat.strongRecOn generalizing cs with
  | ind n ih =>
    cases cs with
    | nil => exact nil
    | cons c cs =>
      by_cases first : isBlank c = true
      · exact blank c cs first (ih _ (by simp [← length]) cs rfl)
      · obtain ⟨parts, solid⟩ : c :: cs = (c :: cs).takeWhile (!isBlank ·) ++
            (c :: cs).dropWhile (!isBlank ·) ∧
            ∀ x ∈ (c :: cs).takeWhile (!isBlank ·), isBlank x = false :=
          ⟨List.takeWhile_append_dropWhile.symm, fun x mem => by
            simpa using List.mem_takeWhile_imp mem⟩
        have some : (c :: cs).takeWhile (!isBlank ·) ≠ [] := by simp [first]
        have stops := List.head?_dropWhile_not (!isBlank ·) (c :: cs)
        generalize (c :: cs).takeWhile (!isBlank ·) = w at parts solid some
        rw [parts] at length ⊢
        cases behind : (c :: cs).dropWhile (!isBlank ·) with
        | nil =>
          rw [List.append_nil]
          exact last w ⟨some, solid⟩
        | cons d after =>
          rw [behind] at stops length
          refine word w d after ⟨some, solid⟩ (by simpa using stops) (ih _ ?_ after rfl)
          rw [← length, List.length_append, List.length_cons]
          omega

private theorem isWord_of_mem_words (cs : List Char) : ∀ w ∈ words cs, IsWord w := by
  induction cs using words_induction with
  | nil => simp [words_nil]
  | blank c cs blank ih => rwa [words_cons_of_blank blank]
  | last w word => simpa [word.words_eq] using word
  | word w c cs word blank ih => simpa [word.words_append_cons blank] using ⟨word, ih⟩

theorem isInfix_iff (part : IsWord p) (cs : List Char) : p <:+: cs ↔ ∃ w ∈ words cs, p <:+: w := by
  induction cs using words_induction with
  | nil => simp [words_nil, part.nonempty]
  | blank c cs blank ih =>
    rw [words_cons_of_blank blank, ← ih, ← List.nil_append (c :: cs),
      isInfix_append_cons_iff part.nonempty (part.notMem blank)]
    simp [part.nonempty]
  | last w word => simp [word.words_eq]
  | word w c cs word blank ih =>
    rw [word.words_append_cons blank, isInfix_append_cons_iff part.nonempty (part.notMem blank), ih]
    simp

end Words

section Collapse

private theorem words_intercalate (all : ∀ w ∈ ws, IsWord w) :
    words ([' '].intercalate ws) = ws := by
  induction ws with
  | nil => rfl
  | cons w ws ih =>
    obtain ⟨word, others⟩ := List.forall_mem_cons.mp all
    cases ws with
    | nil => rw [List.intercalate_singleton, word.words_eq]
    | cons next more =>
      rw [List.intercalate_cons_cons, List.append_assoc, List.singleton_append,
        word.words_append_cons (by decide), ih others]

theorem words_collapse (cs : List Char) : words (collapse cs) = words cs :=
  words_intercalate (isWord_of_mem_words cs)

theorem collapse_collapse (cs : List Char) : collapse (collapse cs) = collapse cs := by
  rw [collapse, words_collapse, ← collapse]

private theorem IsWord.isTidy (word : IsWord w) : IsTidy w where
  first c mem := word.solid c (List.mem_of_mem_head? mem)
  last c mem := word.solid c (List.mem_of_mem_getLast? mem)
  single := by
    have solid := word.solid
    clear word
    induction w with
    | nil => exact .nil
    | cons c w ih =>
      obtain ⟨first, others⟩ := List.forall_mem_cons.mp solid
      exact List.isChain_cons.mpr ⟨fun _ _ => .inl first, ih others⟩

private theorem isTidy_intercalate (all : ∀ w ∈ ws, IsWord w) : IsTidy ([' '].intercalate ws) := by
  induction ws with
  | nil => exact ⟨by simp, by simp, .nil⟩
  | cons w ws ih =>
    obtain ⟨word, others⟩ := List.forall_mem_cons.mp all
    have tidy := ih others
    cases ws with
    | nil =>
      rw [List.intercalate_singleton]
      exact word.isTidy
    | cons next more =>
      have some : [' '].intercalate (next :: more) ≠ [] := by
        intro empty
        have read := words_intercalate others
        rw [empty, words_nil] at read
        cases read
      rw [List.intercalate_cons_cons, List.append_assoc, List.singleton_append]
      generalize [' '].intercalate (next :: more) = rest at tidy some
      constructor
      case first =>
        rw [List.head?_append_of_ne_nil _ word.nonempty]
        exact word.isTidy.first
      case last =>
        rw [List.getLast?_append_of_ne_nil _ (List.cons_ne_nil _ _),
          List.getLast?_cons_of_ne_nil some]
        exact tidy.last
      case single =>
        have behind : (' ' :: rest).IsChain fun a b => isBlank a = false ∨ isBlank b = false :=
          List.isChain_cons.mpr ⟨fun c mem => .inr (tidy.first c mem), tidy.single⟩
        exact List.isChain_append.mpr ⟨word.isTidy.single, behind, fun c mem _ _ =>
          .inl (word.solid c (List.mem_of_mem_getLast? mem))⟩

theorem isTidy_collapse (cs : List Char) : IsTidy (collapse cs) :=
  isTidy_intercalate (isWord_of_mem_words cs)

end Collapse

end PromptCanvas.Text

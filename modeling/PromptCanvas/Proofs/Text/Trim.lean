import Mathlib.Data.List.TakeWhile
import PromptCanvas.Text.Blank

set_option autoImplicit false
set_option relaxedAutoImplicit false

namespace PromptCanvas.Text

variable {cs : List Char} {c : Char}

theorem mem_trimStart (mem : c ∈ cs) (solid : isBlank c = false) : c ∈ trimStart cs := by
  rw [← List.takeWhile_append_dropWhile (p := isBlank) (l := cs), List.mem_append] at mem
  rcases mem with front | back
  · rw [List.mem_takeWhile_imp front] at solid
    cases solid
  · exact back

theorem trimStart_append {blank : List Char} (all : ∀ c ∈ blank, isBlank c = true) :
    trimStart (blank ++ cs) = trimStart cs := by
  rw [trimStart, List.dropWhile_append_of_pos all, trimStart]

theorem trim_append {blank : List Char} (all : ∀ c ∈ blank, isBlank c = true) :
    trim (blank ++ cs) = trim cs := by
  rw [trim, trimStart_append all, trim]

theorem trimStart_eq_self (first : cs.head?.any isBlank = false) : trimStart cs = cs := by
  cases cs with
  | nil => rfl
  | cons c cs => exact List.dropWhile_cons_of_neg (Bool.eq_false_iff.mp first)

theorem trim_eq_self (first : cs.head?.any isBlank = false)
    (last : cs.getLast?.any isBlank = false) : trim cs = cs := by
  have back : trimStart cs.reverse = cs.reverse :=
    trimStart_eq_self (by rwa [List.head?_reverse])
  rw [trim, trimStart_eq_self first, trimEnd, ← trimStart, back, List.reverse_reverse]

theorem trim_eq_self_of_solid (solid : ∀ c ∈ cs, isBlank c = false) : trim cs = cs := by
  apply trim_eq_self
  · cases first : cs.head? with
    | none => rfl
    | some c => exact solid c (List.mem_of_head? first)
  · cases last : cs.getLast? with
    | none => rfl
    | some c => exact solid c (List.mem_of_getLast? last)

theorem trim_append_right {blank : List Char} (all : ∀ c ∈ blank, isBlank c = true) :
    trim (cs ++ blank) = trim cs := by
  have gone : blank.dropWhile isBlank = [] := List.dropWhile_eq_nil_iff.mpr all
  have turned : ∀ c ∈ blank.reverse, isBlank c = true := fun c mem =>
    all c (List.mem_reverse.mp mem)
  rw [trim, trim, trimStart, List.dropWhile_append, gone, trimStart]
  split
  · next none => rw [List.isEmpty_iff.mp none]
  · rw [trimEnd, List.reverse_append, List.dropWhile_append_of_pos turned, trimEnd]

theorem exists_trim (cs : List Char) :
    ∃ before after, cs = before ++ (trim cs ++ after) ∧ (∀ c ∈ before, isBlank c = true) ∧
      ∀ c ∈ after, isBlank c = true := by
  refine ⟨cs.takeWhile isBlank, ((trimStart cs).reverse.takeWhile isBlank).reverse, ?_, ?_, ?_⟩
  · rw [trim, trimEnd, ← List.reverse_append, List.takeWhile_append_dropWhile,
      List.reverse_reverse, trimStart, List.takeWhile_append_dropWhile]
  · exact fun c mem => List.mem_takeWhile_imp mem
  · exact fun c mem => List.mem_takeWhile_imp (List.mem_reverse.mp mem)

end PromptCanvas.Text

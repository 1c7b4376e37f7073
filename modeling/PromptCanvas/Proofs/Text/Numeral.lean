import Mathlib.Data.List.Induction
import PromptCanvas.Text.Numeral

set_option autoImplicit false
set_option relaxedAutoImplicit false

namespace PromptCanvas.Text

theorem isDigit_eq_true_iff (c : Char) : c.isDigit = true ↔ 0x30 ≤ c.toNat ∧ c.toNat ≤ 0x39 := by
  simp only [Char.isDigit, Bool.and_eq_true, decide_eq_true_eq, ge_iff_le, UInt32.le_iff_toNat_le]
  rfl

theorem isAlphanum_eq_true_iff (c : Char) :
    c.isAlphanum = true ↔ c.isDigit = true ∨ (0x41 ≤ c.toNat ∧ c.toNat ≤ 0x5A) ∨
      (0x61 ≤ c.toNat ∧ c.toNat ≤ 0x7A) := by
  unfold Char.isAlphanum Char.isAlpha Char.isUpper Char.isLower
  simp only [Bool.or_eq_true, Bool.and_eq_true, decide_eq_true_eq, ge_iff_le,
    UInt32.le_iff_toNat_le]
  exact or_comm

private theorem numeralValue_concat (cs : List Char) (c : Char) :
    numeralValue (cs ++ [c]) = 10 * numeralValue cs + digitValue c := by
  simp [numeralValue]

private theorem numeralValue_eq (cs : List Char) : numeralValue cs = Nat.ofDigitChars 10 cs 0 := rfl

theorem numeralValue_toDigits (n : Nat) : numeralValue (Nat.toDigits 10 n) = n := by
  rw [numeralValue_eq, Nat.ofDigitChars_ten_toDigits]

private theorem numeralValue_zeros (zeros : Nat) (cs : List Char) :
    numeralValue (List.replicate zeros '0' ++ cs) = numeralValue cs := by
  rw [numeralValue_eq, Nat.ofDigitChars_append, Nat.ofDigitChars_replicate_zero, Nat.mul_zero,
    ← numeralValue_eq]

/-- A text is a number up to a limit just if it has digits, nothing else, and a value within the
limit. -/
theorem digits?_eq_some_iff {limit n : Nat} {cs : List Char} :
    digits? limit cs = some n ↔
      cs ≠ [] ∧ (∀ c ∈ cs, c.isDigit = true) ∧ numeralValue cs = n ∧ n ≤ limit := by
  unfold digits?
  split
  · next refused =>
    constructor
    · intro none
      cases none
    · rintro ⟨some, decimal, -, -⟩
      rw [Bool.or_eq_true, List.isEmpty_iff, Bool.not_eq_true'] at refused
      rcases refused with empty | other
      · exact absurd empty some
      · exact absurd (List.all_eq_true.mpr decimal) (by rw [other]; exact Bool.false_ne_true)
  · next accepted =>
    rw [Bool.or_eq_true, List.isEmpty_iff, Bool.not_eq_true', not_or, Bool.not_eq_false,
      List.all_eq_true] at accepted
    obtain ⟨some, decimal⟩ := accepted
    split
    · next within =>
      constructor
      · intro same
        obtain rfl := Option.some.inj same
        exact ⟨some, decimal, rfl, within⟩
      · rintro ⟨-, -, value, -⟩
        rw [value]
    · next beyond =>
      constructor
      · intro none
        cases none
      · rintro ⟨-, -, rfl, within⟩
        exact absurd within beyond

section Numerals

variable {limit n zeros : Nat} {cs : List Char} {c : Char}

private theorem digitValue_lt (decimal : c.isDigit = true) : digitValue c < 10 := by
  obtain ⟨least, most⟩ := (isDigit_eq_true_iff c).mp decimal
  have value : digitValue c = c.toNat - 48 := rfl
  omega

private theorem digitChar_digitValue (decimal : c.isDigit = true) :
    (digitValue c).digitChar = c := by
  obtain ⟨least, most⟩ := (isDigit_eq_true_iff c).mp decimal
  have value : digitValue c = c.toNat - 48 := rfl
  apply Char.toNat_inj.mp
  rw [Nat.toNat_digitChar_of_lt_ten (digitValue_lt decimal)]
  omega

private theorem isDigit_of_mem_zeros (mem : c ∈ List.replicate zeros '0' ++ Nat.toDigits 10 n) :
    c.isDigit = true := by
  rcases List.mem_append.mp mem with zero | digit
  · rw [List.eq_of_mem_replicate zero]
    decide
  · exact Nat.isDigit_of_mem_toDigits (by decide) (by decide) digit

private theorem exists_zeros (some : cs ≠ []) (decimal : ∀ c ∈ cs, c.isDigit = true) :
    ∃ zeros, cs = List.replicate zeros '0' ++ Nat.toDigits 10 (numeralValue cs) := by
  induction cs using List.reverseRecOn with
  | nil => exact absurd rfl some
  | append_singleton front c ih =>
    have last : c.isDigit = true := decimal c (by simp)
    have single : Nat.toDigits 10 (digitValue c) = [c] := by
      rw [Nat.toDigits_of_lt_base (digitValue_lt last), digitChar_digitValue last]
    rw [numeralValue_concat]
    by_cases none : front = []
    · refine ⟨0, ?_⟩
      rw [none]
      simpa [numeralValue] using single.symm
    · obtain ⟨zeros, spelled⟩ := ih none fun d mem => decimal d (by simp [mem])
      rcases Nat.eq_zero_or_pos (numeralValue front) with zero | positive
      · refine ⟨zeros + 1, ?_⟩
        rw [zero, Nat.toDigits_zero, ← List.replicate_succ'] at spelled
        rw [zero, Nat.mul_zero, Nat.zero_add, single, ← spelled]
      · refine ⟨zeros, ?_⟩
        rw [← Nat.toDigits_append_toDigits (by decide) positive (digitValue_lt last), single,
          ← List.append_assoc, ← spelled]

private theorem digits?_eq_some_iff_exists_zeros :
    digits? limit cs = some n ↔
      (∃ zeros, cs = List.replicate zeros '0' ++ Nat.toDigits 10 n) ∧ n ≤ limit := by
  rw [digits?_eq_some_iff]
  constructor
  · rintro ⟨some, decimal, rfl, within⟩
    exact ⟨exists_zeros some decimal, within⟩
  · rintro ⟨⟨zeros, rfl⟩, within⟩
    refine ⟨?_, fun c => isDigit_of_mem_zeros, ?_, within⟩
    · simp [Nat.toDigits_ne_nil]
    · rw [numeralValue_zeros, numeralValue_toDigits]

/-- A number as it may be written: its decimal digits, with zeros and one plus sign before them or
without. -/
def IsNumeral (n : Nat) (cs : List Char) : Prop :=
  ∃ sign zeros, (sign = [] ∨ sign = ['+']) ∧
    cs = sign ++ (List.replicate zeros '0' ++ Nat.toDigits 10 n)

theorem isNumeral_toDigits (n : Nat) : IsNumeral n (Nat.toDigits 10 n) := ⟨[], 0, .inl rfl, rfl⟩

theorem IsNumeral.eq_or_isDigit (numeral : IsNumeral n cs) :
    ∀ c ∈ cs, c = '+' ∨ c.isDigit = true := by
  obtain ⟨sign, zeros, rfl | rfl, rfl⟩ := numeral
  · exact fun c mem => .inr (isDigit_of_mem_zeros mem)
  · intro c mem
    exact (List.mem_cons.mp mem).imp id isDigit_of_mem_zeros

theorem unsigned?_eq_some_iff : unsigned? limit cs = some n ↔ IsNumeral n cs ∧ n ≤ limit := by
  constructor
  · intro read
    unfold unsigned? at read
    split at read
    · obtain ⟨⟨zeros, rfl⟩, within⟩ := digits?_eq_some_iff_exists_zeros.mp read
      exact ⟨⟨['+'], zeros, .inr rfl, rfl⟩, within⟩
    · obtain ⟨⟨zeros, rfl⟩, within⟩ := digits?_eq_some_iff_exists_zeros.mp read
      exact ⟨⟨[], zeros, .inl rfl, rfl⟩, within⟩
  · rintro ⟨⟨sign, zeros, signed, rfl⟩, within⟩
    have read := digits?_eq_some_iff_exists_zeros.mpr ⟨⟨zeros, rfl⟩, within⟩
    rcases signed with rfl | rfl
    · rw [List.nil_append]
      unfold unsigned?
      split
      · next digits plus =>
        have digit : '+'.isDigit = true := isDigit_of_mem_zeros (plus ▸ List.mem_cons_self)
        exact absurd digit (by decide)
      · exact read
    · exact read

end Numerals

end PromptCanvas.Text

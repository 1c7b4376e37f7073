import PromptCanvas.Proofs.Text.Utf8
import PromptCanvas.Text.Blank
import PromptCanvas.Text.Percent

set_option autoImplicit false
set_option relaxedAutoImplicit false

namespace PromptCanvas.Text

private theorem hexValue?_upperHexDigit :
    ∀ n < 16, hexValue? (upperHexDigit n) = some n := by decide

private theorem isAlphanum_upperHexDigit :
    ∀ n < 16, (upperHexDigit n).isAlphanum = true := by decide

private theorem percentDecode_percentByte (b : UInt8) (rest : List Char) :
    percentDecode (percentByte b ++ rest) = b :: percentDecode rest := by
  have small : b.toNat < 256 := b.toNat_lt
  have high := hexValue?_upperHexDigit (b.toNat / 16) (by omega)
  have low := hexValue?_upperHexDigit (b.toNat % 16) (by omega)
  have value : 16 * (b.toNat / 16) + b.toNat % 16 = b.toNat := Nat.div_add_mod b.toNat 16
  simp [percentByte, percentDecode, high, low, value]

private theorem percentDecode_percentBytes (bytes : List UInt8) (rest : List Char) :
    percentDecode (bytes.flatMap percentByte ++ rest) = bytes ++ percentDecode rest := by
  induction bytes with
  | nil => rfl
  | cons b bytes ih =>
    rw [List.flatMap_cons, List.append_assoc, percentDecode_percentByte, ih, List.cons_append]

theorem percentDecode_cons {c : Char} (other : c ≠ '%') (rest : List Char) :
    percentDecode (c :: rest) = encodeUtf8 (String.ofList [c]) ++ percentDecode rest := by
  rw [percentDecode]
  rintro a b more rfl
  exact absurd rfl other

section Encode

variable {reserved : Char → Bool} {cs cs' : List Char}

private theorem encodeUtf8_cons (c : Char) (cs : List Char) :
    encodeUtf8 (String.ofList (c :: cs)) =
      encodeUtf8 (String.ofList [c]) ++ encodeUtf8 (String.ofList cs) := by
  simp [encodeUtf8_eq]

private theorem percentDecode_percentChar (sign : reserved '%' = true) (c : Char)
    (rest : List Char) :
    percentDecode (percentChar reserved c ++ rest) =
      encodeUtf8 (String.ofList [c]) ++ percentDecode rest := by
  unfold percentChar
  split
  · exact percentDecode_percentBytes _ rest
  · next bare =>
    have other : c ≠ '%' := by
      rintro rfl
      simp [sign] at bare
    exact percentDecode_cons other rest

theorem percentDecode_percentEncode (sign : reserved '%' = true) (cs : List Char) :
    percentDecode (percentEncode reserved cs) = encodeUtf8 (String.ofList cs) := by
  induction cs with
  | nil => simp [percentEncode, percentDecode, encodeUtf8_eq]
  | cons c cs ih =>
    rw [percentEncode, List.flatMap_cons, percentDecode_percentChar sign, ← percentEncode, ih,
      ← encodeUtf8_cons]

theorem percentEncode_inj (sign : reserved '%' = true) :
    percentEncode reserved cs = percentEncode reserved cs' ↔ cs = cs' := by
  constructor
  · intro same
    have bytes := congrArg percentDecode same
    rw [percentDecode_percentEncode sign, percentDecode_percentEncode sign] at bytes
    have texts := congrArg decodeUtf8 bytes
    rwa [decodeUtf8_encodeUtf8, decodeUtf8_encodeUtf8, String.toList_ofList,
      String.toList_ofList] at texts
  · rintro rfl
    rfl

theorem percentEncode_append (reserved : Char → Bool) (cs cs' : List Char) :
    percentEncode reserved (cs ++ cs') = percentEncode reserved cs ++ percentEncode reserved cs' :=
  List.flatMap_append

private theorem mem_percentByte {b : UInt8} {c : Char} (mem : c ∈ percentByte b) :
    c = '%' ∨ c.isAlphanum = true := by
  have small : b.toNat < 256 := b.toNat_lt
  simp only [percentByte, List.mem_cons, List.not_mem_nil, or_false] at mem
  rcases mem with rfl | rfl | rfl
  · exact .inl rfl
  · exact .inr (isAlphanum_upperHexDigit _ (by omega))
  · exact .inr (isAlphanum_upperHexDigit _ (by omega))

theorem notMem_percentEncode {c : Char} (set : reserved c = true) (other : c ≠ '%')
    (sign : c.isAlphanum = false) (cs : List Char) : c ∉ percentEncode reserved cs := by
  intro mem
  obtain ⟨d, -, within⟩ := List.mem_flatMap.mp mem
  unfold percentChar at within
  split at within
  · obtain ⟨b, -, form⟩ := List.mem_flatMap.mp within
    rcases mem_percentByte form with same | letter
    · exact other same
    · simp [sign] at letter
  · next bare =>
    obtain rfl := List.mem_singleton.mp within
    simp [set] at bare

end Encode

/-! ### Texts in parts -/

section Parts

variable {separates : Char → Bool} {c : Char}

theorem partsBy_of_all {cs : List Char} (none : ∀ c ∈ cs, separates c = false) :
    partsBy separates cs = [cs] := by
  induction cs with
  | nil => rfl
  | cons c cs ih =>
    obtain ⟨other, more⟩ := List.forall_mem_cons.mp none
    simp [partsBy, other, ih more]

private theorem partsBy_ne_nil (separates : Char → Bool) (cs : List Char) :
    partsBy separates cs ≠ [] := by
  cases cs with
  | nil => exact List.cons_ne_nil _ _
  | cons c cs =>
    rw [partsBy]
    split
    · exact List.cons_ne_nil _ _
    · split <;> exact List.cons_ne_nil _ _

theorem partsBy_append_cons (set : separates c = true) (front back : List Char) :
    partsBy separates (front ++ c :: back) = partsBy separates front ++ partsBy separates back := by
  induction front with
  | nil => simp [partsBy, set]
  | cons d front ih =>
    rw [List.cons_append, partsBy, ih, partsBy]
    split
    · rfl
    · -- The parts in front are at least one, and the item goes to the first of them.
      obtain ⟨part, more, parts⟩ := List.exists_cons_of_ne_nil (partsBy_ne_nil separates front)
      simp [parts]

theorem flatten_partsBy (separates : Char → Bool) (cs : List Char) :
    (partsBy separates cs).flatten = cs.filter fun c => !separates c := by
  induction cs with
  | nil => rfl
  | cons c cs ih =>
    rw [partsBy]
    split
    · next set => simp [set, ih]
    · next other =>
      obtain ⟨part, more, parts⟩ := List.exists_cons_of_ne_nil (partsBy_ne_nil separates cs)
      rw [parts, List.flatten_cons] at ih
      simp [parts, other, ← ih]

end Parts

end PromptCanvas.Text

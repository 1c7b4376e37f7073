import PromptCanvas.Proofs.Element.Json
import PromptCanvas.Proofs.Size.Spelling
import PromptCanvas.Service.Exchange

set_option autoImplicit false
set_option relaxedAutoImplicit false

namespace PromptCanvas.Size

/-- A side that can be generated. -/
structure IsFittedSide (side : Nat) : Prop where
  grain : 8 ∣ side
  least : 64 ≤ side
  most : side ≤ 4096

/-- A side that can be generated, not further than half a grain from the side asked for or from the
end of the range that this one is beyond. -/
structure IsFitFor (side fitted : Nat) : Prop extends IsFittedSide fitted where
  above : min (max side 64) 4096 ≤ fitted + 4
  below : fitted ≤ min (max side 64) 4096 + 4

/-- A number, if it is in a word whose largest number is `limit`. -/
def word? (limit n : Nat) : Option Nat := Option.guard (· ≤ limit) n

/-- `fitSide` in words: nothing, as soon as a sum or a product is too large for them. -/
def fitSideIn? (limit side : Nat) : Option Nat := do
  let raised ← word? limit (clampSide side + grain / 2)
  let rounded ← word? limit (raised / grain * grain)
  pure (clampSide rounded)

/-- `normalized` in words: 32 bits for the sides, and 64 bits for the products that are compared. -/
def normalizedIn? (s : Size) : Option FittedSize := do
  let w ← fitSideIn? Text.max32 s.w
  let h ← fitSideIn? Text.max32 s.h
  let across ← word? Text.max64 (w * s.h)
  let down ← word? Text.max64 (s.w * h)
  pure
    { size := ⟨w, h⟩
      sizeAdjusted := (⟨w, h⟩ : Size) ≠ s
      ratioAdjusted := across ≠ down }

section Sides

variable {side other limit : Nat}

private theorem clampSide_eq (side : Nat) : clampSide side = min (max side 64) 4096 := rfl

private theorem clampSide_mem (side : Nat) : 64 ≤ clampSide side ∧ clampSide side ≤ 4096 := by
  rw [clampSide_eq]
  omega

private theorem clampSide_of_mem (least : 64 ≤ side) (most : side ≤ 4096) :
    clampSide side = side := by
  rw [clampSide_eq]
  omega

private theorem clampSide_mono (le : side ≤ other) : clampSide side ≤ clampSide other := by
  rw [clampSide_eq, clampSide_eq]
  omega

private theorem isFittedSide_rounded (side : Nat) :
    IsFittedSide ((clampSide side + 4) / 8 * 8) := by
  obtain ⟨least, most⟩ := clampSide_mem side
  have multiple : 8 ∣ (clampSide side + 4) / 8 * 8 := Nat.dvd_mul_left 8 _
  exact ⟨multiple, by omega, by omega⟩

private theorem fitSide_eq (side : Nat) : fitSide side = (clampSide side + 4) / 8 * 8 :=
  clampSide_of_mem (isFittedSide_rounded side).least (isFittedSide_rounded side).most

private theorem isFitFor_fitSide (side : Nat) : IsFitFor side (fitSide side) := by
  rw [fitSide_eq]
  constructor
  case toIsFittedSide => exact isFittedSide_rounded side
  all_goals
    rw [← clampSide_eq]
    omega

private theorem fitSide_mono (le : side ≤ other) : fitSide side ≤ fitSide other := by
  have clamped := clampSide_mono le
  rw [fitSide_eq, fitSide_eq]
  omega

private theorem IsFittedSide.fitSide_eq_self (fitted : IsFittedSide side) :
    fitSide side = side := by
  obtain ⟨n, rfl⟩ := fitted.grain
  rw [fitSide_eq, clampSide_of_mem fitted.least fitted.most]
  omega

end Sides

section Words

variable {s : Size} {limit n : Nat}

private theorem word?_eq_some (fits : n ≤ limit) : word? limit n = some n :=
  Option.guard_eq_some_iff.mpr ⟨rfl, decide_eq_true fits⟩

private theorem fitSideIn?_eq (wide : 4100 ≤ limit) (side : Nat) :
    fitSideIn? limit side = some (fitSide side) := by
  obtain ⟨-, most⟩ := clampSide_mem side
  have half : grain / 2 = 4 := rfl
  have raised : clampSide side + grain / 2 ≤ limit := by omega
  have rounded : (clampSide side + grain / 2) / grain * grain ≤ limit :=
    (Nat.div_mul_le_self _ _).trans raised
  simp only [fitSideIn?, word?_eq_some raised, word?_eq_some rounded, Option.bind_eq_bind,
    Option.bind_some, Option.pure_def, fitSide]

private theorem product_le {fitted side : Nat} (fit : IsFittedSide fitted)
    (narrow : side ≤ Text.max32) : fitted * side ≤ Text.max64 :=
  calc
    fitted * side ≤ 4096 * Text.max32 := Nat.mul_le_mul fit.most narrow
    _ ≤ Text.max64 := by decide

private theorem normalizedIn?_eq (narrow : s.IsNarrow) : normalizedIn? s = some s.normalized := by
  have enough : 4100 ≤ Text.max32 := by decide
  have across : fitSide s.w * s.h ≤ Text.max64 :=
    product_le (isFitFor_fitSide s.w).toIsFittedSide narrow.2
  have down : s.w * fitSide s.h ≤ Text.max64 := by
    rw [Nat.mul_comm]
    exact product_le (isFitFor_fitSide s.h).toIsFittedSide narrow.1
  simp only [normalizedIn?, fitSideIn?_eq enough, word?_eq_some across, word?_eq_some down,
    Option.bind_eq_bind, Option.bind_some, Option.pure_def, normalized]

end Words

private theorem normalized_eq_self {s : Size} (w : IsFittedSide s.w) (h : IsFittedSide s.h) :
    s.normalized = ⟨s, false, false⟩ := by
  simp [normalized, w.fitSide_eq_self, h.fitSide_eq_self]

/-- A positive size is read from its text, also from that of a run request, and from no other texts
than those that write its sides to the left and right of a separator, each with zeros and a plus
sign before it or without and with any white space around.  Of any size a size is made that can be
generated, near it and in the same order, in which nothing is left to change; no number on the way
is too large for its word, and the reports say whether size and proportions have changed. -/
theorem read_as_written_and_fitted_once (s : Size) (narrow : s.IsNarrow) :
    (0 < s.w → 0 < s.h →
      parse s.text.toList = .ok s ∧
      (∀ prompt target hashes,
        parse (RunRequest.ofReferences prompt target s hashes).size.toList = .ok s) ∧
      ∀ cs, parse cs = .ok s ↔
        ∃ wide separator high, cs = wide ++ separator :: high ∧ Spells s.w wide ∧
          separator ∈ ['x', 'X', '×', '*'] ∧ Spells s.h high) ∧
    normalizedIn? s = some s.normalized ∧
    IsFitFor s.w s.normalized.size.w ∧ IsFitFor s.h s.normalized.size.h ∧
    (∀ t : Size, s.w ≤ t.w → s.normalized.size.w ≤ t.normalized.size.w) ∧
    (∀ t : Size, s.h ≤ t.h → s.normalized.size.h ≤ t.normalized.size.h) ∧
    s.normalized.size.normalized = ⟨s.normalized.size, false, false⟩ ∧
    (s.normalized.sizeAdjusted = true ↔ s.normalized.size ≠ s) ∧
    (s.normalized.ratioAdjusted = true ↔
      s.normalized.size.w * s.h ≠ s.w * s.normalized.size.h) := by
  have w := isFitFor_fitSide s.w
  have h := isFitFor_fitSide s.h
  refine ⟨?_, normalizedIn?_eq narrow, w, h, fun t => fitSide_mono, fun t => fitSide_mono,
    normalized_eq_self w.toIsFittedSide h.toIsFittedSide, decide_eq_true_iff, decide_eq_true_iff⟩
  intro broad tall
  have read : ∀ cs, parse cs = .ok s ↔ _ := fun cs =>
    parse_eq_ok_iff.trans (and_iff_left ⟨⟨broad, tall⟩, narrow⟩)
  have printed : parse s.text.toList = .ok s := by
    refine (read _).mpr ⟨_, 'x', _, s.toList_text, spells_toDigits s.w, ?_, spells_toDigits s.h⟩
    exact List.mem_cons_self
  exact ⟨printed, fun prompt target hashes => printed, read⟩

def banner : Size := ⟨4294967295, 1001⟩

theorem banner_is_read_and_fitted :
    banner.IsNarrow ∧ 0 < banner.w ∧ 0 < banner.h ∧
    parse banner.text.toList = .ok banner ∧
    parse "\t004294967295 × +01001\u3000".toList = .ok banner ∧
    normalizedIn? banner = some ⟨⟨4096, 1000⟩, true, true⟩ ∧
    normalized ⟨4096, 1000⟩ = ⟨⟨4096, 1000⟩, false, false⟩ := by
  have narrow : banner.IsNarrow := ⟨by decide, by decide⟩
  have broad : 0 < banner.w := by decide
  have tall : 0 < banner.h := by decide
  have fitted : banner.normalized = ⟨⟨4096, 1000⟩, true, true⟩ := by decide
  obtain ⟨reads, words, -, -, -, -, still, -⟩ := read_as_written_and_fitted_once banner narrow
  obtain ⟨printed, -, written⟩ := reads broad tall
  rw [fitted] at words still
  refine ⟨narrow, broad, tall, printed, (written _).mpr ?_, words, still⟩
  refine ⟨"\t004294967295 ".toList, '×', " +01001\u3000".toList, by decide, ?_, by decide, ?_⟩
  · exact ⟨['\t'], "004294967295".toList, [' '], by decide, ⟨[], 2, .inl rfl, by decide⟩,
      List.forall_mem_singleton.mpr (by decide), List.forall_mem_singleton.mpr (by decide)⟩
  · exact ⟨[' '], "+01001".toList, ['\u3000'], by decide, ⟨['+'], 1, .inr rfl, by decide⟩,
      List.forall_mem_singleton.mpr (by decide), List.forall_mem_singleton.mpr (by decide)⟩

end PromptCanvas.Size

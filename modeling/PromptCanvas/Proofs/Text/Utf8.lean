import PromptCanvas.Text.Utf8

/-!
What bytes read as UTF-8 have in common with the text that was written.

A byte below 0x80 is a character of its own wherever it stands, so text can be read piece by piece
between such bytes, and no other bytes bring their characters.  What was written as UTF-8 is read as
it was.
-/

set_option autoImplicit false
set_option relaxedAutoImplicit false

namespace PromptCanvas.Text

def IsPlain (b : UInt8) : Prop := 0 < b.toNat ∧ b.toNat < 0x80

instance (b : UInt8) : Decidable (IsPlain b) :=
  inferInstanceAs (Decidable (0 < b.toNat ∧ b.toNat < 0x80))

def charOf (b : UInt8) : Char := Char.ofNat b.toNat

def IsForeign (c : Char) : Prop := c.toNat = 0 ∨ 0x80 ≤ c.toNat

theorem toNat_charOf {b : UInt8} (small : b.toNat < 0x80) : (charOf b).toNat = b.toNat := by
  have valid : b.toNat.isValidChar := .inl (Nat.lt_trans small (by decide))
  rw [charOf, Char.ofNat, dif_pos valid]
  rfl

theorem charOf_inj {a b : UInt8} (small : a.toNat < 0x80) (small' : b.toNat < 0x80) :
    charOf a = charOf b ↔ a = b := by
  constructor
  · intro same
    have number := congrArg Char.toNat same
    rw [toNat_charOf small, toNat_charOf small'] at number
    exact UInt8.toNat_inj.mp number
  · exact congrArg charOf

private theorem isForeign_replacement : IsForeign replacement := .inr (by decide)

private theorem isForeign_ofNat {n : Nat} (large : 0x80 ≤ n) : IsForeign (Char.ofNat n) := by
  by_cases valid : n.isValidChar
  · rw [IsForeign, Char.ofNat, dif_pos valid]
    exact .inr large
  · rw [IsForeign, Char.ofNat, dif_neg valid]
    exact .inl rfl

private theorem IsForeign.ne_charOf {c : Char} (foreign : IsForeign c) {b : UInt8}
    (plain : IsPlain b) : c ≠ charOf b := by
  rintro rfl
  rw [IsForeign, toNat_charOf plain.2] at foreign
  rw [IsPlain] at plain
  omega

section Read

variable {missing bits low high : Nat}

private theorem decodeUtf8_cons_of_lt {b : UInt8} (small : b.toNat < 0x80) (rest : List UInt8) :
    decodeUtf8 (b :: rest) = charOf b :: decodeUtf8 rest := by
  simp [decodeUtf8, decodeFrom, lead?, small, charOf]

private theorem decodeFrom_refused {b : UInt8} (some : 0 < missing)
    (refused : ¬ (low ≤ b.toNat ∧ b.toNat ≤ high)) (rest : List UInt8) :
    decodeFrom missing bits low high (b :: rest) = replacement :: decodeUtf8 (b :: rest) := by
  have under : missing ≠ 0 := Nat.ne_of_gt some
  simp [decodeUtf8, decodeFrom, under, refused]

/-- The beginning of a character that takes more than one byte: none of the bytes still missing is
below 0x80, and the character will not be either. -/
structure Awaits (missing bits low : Nat) : Prop where
  some : 0 < missing
  least : 0x80 ≤ low
  last : missing = 1 → 0x80 ≤ bits * 0x40 + (low - 0x80)
  more : 2 ≤ bits * 0x40 + (low - 0x80)

private theorem awaits_of_lead? {b : Nat} {lead : Lead} (begins : lead? b = some lead)
    (long : lead.following ≠ 0) : Awaits lead.following lead.bits lead.low := by
  unfold lead? at begins
  repeat' split at begins
  all_goals cases begins
  all_goals constructor
  all_goals
    dsimp only at long ⊢
    omega

private theorem Awaits.next (awaits : Awaits missing bits low) {b : Nat} (above : low ≤ b)
    (many : missing ≠ 1) : Awaits (missing - 1) (bits * 0x40 + (b - 0x80)) 0x80 := by
  obtain ⟨some, least, -, more⟩ := awaits
  constructor <;> omega

/-- What begins a character brings one that no small byte stands for, and the rest is read on its
own.  Nothing changes in that when a small byte follows. -/
private theorem decodeFrom_of_awaits (awaits : Awaits missing bits low) (high : Nat)
    (bytes : List UInt8) :
    ∃ c rest, IsForeign c ∧ rest <:+ bytes ∧
      ∀ tail : List UInt8, (∀ b ∈ tail.head?, b.toNat < 0x80) →
        decodeFrom missing bits low high (bytes ++ tail) = c :: decodeUtf8 (rest ++ tail) := by
  induction bytes generalizing missing bits low high with
  | nil =>
    refine ⟨replacement, [], isForeign_replacement, List.suffix_rfl, fun tail small => ?_⟩
    cases tail with
    | nil => simp [decodeFrom, decodeUtf8, Nat.ne_of_gt awaits.some]
    | cons b tail =>
      have below : b.toNat < 0x80 := small b rfl
      have least := awaits.least
      exact decodeFrom_refused awaits.some (by omega) tail
  | cons b bytes ih =>
    by_cases within : low ≤ b.toNat ∧ b.toNat ≤ high
    · by_cases last : missing = 1
      · have large : 0x80 ≤ bits * 0x40 + (b.toNat - 0x80) := by
          have := awaits.last last
          omega
        refine ⟨_, bytes, isForeign_ofNat large, List.suffix_cons b bytes, fun tail _ => ?_⟩
        simp [decodeFrom, last, within, decodeUtf8]
      · obtain ⟨c, rest, foreign, part, read⟩ := ih (awaits.next within.1 last) 0xBF
        refine ⟨c, rest, foreign, part.trans (List.suffix_cons b bytes), fun tail small => ?_⟩
        rw [← read tail small]
        simp [decodeFrom, Nat.ne_of_gt awaits.some, within, last]
    · refine ⟨replacement, b :: bytes, isForeign_replacement, List.suffix_rfl, fun tail _ => ?_⟩
      exact decodeFrom_refused awaits.some within (bytes ++ tail)

private theorem decodeUtf8_cons_of_lead {b : UInt8}
    (begins : lead? b.toNat = some ⟨missing, bits, low, high⟩) (long : missing ≠ 0)
    (rest : List UInt8) : decodeUtf8 (b :: rest) = decodeFrom missing bits low high rest := by
  simp [decodeUtf8, decodeFrom, begins, long]

/-- A byte from 0x80 on brings a character that no small byte stands for, and takes some of the
bytes that follow with it. -/
private theorem decodeUtf8_cons_of_ge {b : UInt8} (large : 0x80 ≤ b.toNat) (bytes : List UInt8) :
    ∃ c rest, IsForeign c ∧ rest <:+ bytes ∧
      ∀ tail : List UInt8, (∀ b ∈ tail.head?, b.toNat < 0x80) →
        decodeUtf8 (b :: bytes ++ tail) = c :: decodeUtf8 (rest ++ tail) := by
  cases begins : lead? b.toNat with
  | none =>
    refine ⟨replacement, bytes, isForeign_replacement, List.suffix_rfl, fun tail _ => ?_⟩
    simp [decodeUtf8, decodeFrom, begins]
  | some lead =>
    have long : lead.following ≠ 0 := by
      unfold lead? at begins
      repeat' split at begins
      all_goals cases begins
      all_goals
        dsimp only
        omega
    obtain ⟨c, rest, foreign, part, read⟩ :=
      decodeFrom_of_awaits (awaits_of_lead? begins long) lead.high bytes
    refine ⟨c, rest, foreign, part, fun tail small => ?_⟩
    rw [← read tail small]
    exact decodeUtf8_cons_of_lead begins long (bytes ++ tail)

end Read

theorem decodeUtf8_append_cons {b : UInt8} (small : b.toNat < 0x80) (bytes more : List UInt8) :
    decodeUtf8 (bytes ++ b :: more) =
      decodeUtf8 bytes ++ charOf b :: decodeUtf8 more := by
  -- A character may take any of the bytes that follow, so the induction is on their number.
  induction length : bytes.length using Nat.strongRecOn generalizing bytes with
  | ind n ih =>
    cases bytes with
    | nil => exact decodeUtf8_cons_of_lt small more
    | cons a bytes =>
      by_cases plain : a.toNat < 0x80
      · rw [List.cons_append, decodeUtf8_cons_of_lt plain, decodeUtf8_cons_of_lt plain,
          ih _ (by simp [← length]) bytes rfl, List.cons_append]
      · obtain ⟨c, rest, -, part, read⟩ := decodeUtf8_cons_of_ge (Nat.le_of_not_lt plain) bytes
        have alone := read [] nofun
        have before := read (b :: more) fun _ mem => Option.some.inj mem ▸ small
        have shorter : rest.length < n := by
          have := part.length_le
          simp [← length]
          omega
        rw [List.append_nil, List.append_nil] at alone
        rw [before, alone, ih _ shorter rest rfl, List.cons_append]

theorem decodeUtf8_eq_nil {bytes : List UInt8} : decodeUtf8 bytes = [] ↔ bytes = [] := by
  constructor
  · intro empty
    cases bytes with
    | nil => rfl
    | cons b bytes =>
      by_cases small : b.toNat < 0x80
      · rw [decodeUtf8_cons_of_lt small] at empty
        cases empty
      · obtain ⟨c, rest, -, -, read⟩ := decodeUtf8_cons_of_ge (Nat.le_of_not_lt small) bytes
        rw [← List.append_nil (b :: bytes), read [] nofun] at empty
        cases empty
  · rintro rfl
    rfl

theorem decodeUtf8_append_of_plain {mark : List UInt8} (plain : ∀ b ∈ mark, IsPlain b)
    (bytes : List UInt8) : decodeUtf8 (mark ++ bytes) = mark.map charOf ++ decodeUtf8 bytes := by
  induction mark with
  | nil => rfl
  | cons b mark ih =>
    obtain ⟨first, others⟩ := List.forall_mem_cons.mp plain
    rw [List.cons_append, decodeUtf8_cons_of_lt first.2, ih others]
    rfl

theorem charOf_mem_decodeUtf8 {b : UInt8} (plain : IsPlain b) {bytes : List UInt8} :
    charOf b ∈ decodeUtf8 bytes ↔ b ∈ bytes := by
  constructor
  · intro mem
    induction length : bytes.length using Nat.strongRecOn generalizing bytes with
    | ind n ih =>
      cases bytes with
      | nil => cases mem
      | cons a bytes =>
        by_cases small : a.toNat < 0x80
        · rw [decodeUtf8_cons_of_lt small, List.mem_cons, charOf_inj plain.2 small] at mem
          refine List.mem_cons.mpr (mem.imp_right fun later => ih _ ?_ later rfl)
          simp [← length]
        · obtain ⟨c, rest, foreign, part, read⟩ :=
            decodeUtf8_cons_of_ge (Nat.le_of_not_lt small) bytes
          have alone := read [] nofun
          rw [List.append_nil, List.append_nil] at alone
          rw [alone, List.mem_cons] at mem
          have later := mem.resolve_left (foreign.ne_charOf plain).symm
          have shorter : rest.length < n := by
            have := part.length_le
            simp [← length]
            omega
          exact List.mem_cons_of_mem a (part.subset (ih _ shorter later rfl))
  · intro mem
    obtain ⟨front, rest, rfl⟩ := List.append_of_mem mem
    rw [decodeUtf8_append_cons plain.2]
    exact List.mem_append_right _ List.mem_cons_self

theorem isPrefixOf_decodeUtf8 {mark : List UInt8} (plain : ∀ b ∈ mark, IsPlain b)
    (bytes : List UInt8) :
    (mark.map charOf).isPrefixOf (decodeUtf8 bytes) = mark.isPrefixOf bytes := by
  induction mark generalizing bytes with
  | nil => rfl
  | cons a mark ih =>
    obtain ⟨first, others⟩ := List.forall_mem_cons.mp plain
    cases bytes with
    | nil => rfl
    | cons b bytes =>
      by_cases small : b.toNat < 0x80
      · have same : (charOf a == charOf b) = (a == b) := by
          rw [Bool.eq_iff_iff, beq_iff_eq, beq_iff_eq, charOf_inj first.2 small]
        rw [decodeUtf8_cons_of_lt small, List.map_cons, List.isPrefixOf, ih others, same,
          List.isPrefixOf]
      · obtain ⟨c, rest, foreign, -, read⟩ :=
          decodeUtf8_cons_of_ge (Nat.le_of_not_lt small) bytes
        have alone := read [] nofun
        rw [List.append_nil] at alone
        have differs : (charOf a == c) = false := beq_false_of_ne (foreign.ne_charOf first).symm
        have apart : (a == b) = false := by
          refine beq_false_of_ne ?_
          rintro rfl
          exact small first.2
        rw [alone, List.map_cons, List.isPrefixOf, differs, List.isPrefixOf, apart]
        rfl

section Written

variable {missing bits low high : Nat} {b : UInt8}

private theorem decodeFrom_last (within : low ≤ b.toNat ∧ b.toNat ≤ high) (rest : List UInt8) :
    decodeFrom 1 bits low high (b :: rest) =
      Char.ofNat (bits * 0x40 + (b.toNat - 0x80)) :: decodeUtf8 rest := by
  simp [decodeFrom, within, decodeUtf8]

private theorem decodeFrom_next (within : low ≤ b.toNat ∧ b.toNat ≤ high) (rest : List UInt8) :
    decodeFrom (missing + 2) bits low high (b :: rest) =
      decodeFrom (missing + 1) (bits * 0x40 + (b.toNat - 0x80)) 0x80 0xBF rest := by
  simp [decodeFrom, within]

private theorem lead?_of_two {b : Nat} (lower : 0xC2 ≤ b) (upper : b < 0xE0) :
    lead? b = some ⟨1, b - 0xC0, 0x80, 0xBF⟩ := by
  have large : ¬ b < 0x80 := by omega
  rw [lead?, if_neg large, if_neg (Nat.not_lt.mpr lower), if_pos upper]

private theorem lead?_of_three {b : Nat} (lower : 0xE0 ≤ b) (upper : b < 0xF0) :
    lead? b = some ⟨2, b - 0xE0, if b = 0xE0 then 0xA0 else 0x80,
      if b = 0xED then 0x9F else 0xBF⟩ := by
  have large : ¬ b < 0x80 ∧ ¬ b < 0xC2 ∧ ¬ b < 0xE0 := by omega
  rw [lead?, if_neg large.1, if_neg large.2.1, if_neg large.2.2]
  by_cases first : b = 0xE0
  · simp [first]
  by_cases surrogate : b = 0xED
  · simp [surrogate]
  simp [first, surrogate, upper]

private theorem lead?_of_four {b : Nat} (lower : 0xF0 ≤ b) (upper : b ≤ 0xF4) :
    lead? b = some ⟨3, b - 0xF0, if b = 0xF0 then 0x90 else 0x80,
      if b = 0xF4 then 0x8F else 0xBF⟩ := by
  have large : ¬ b < 0x80 ∧ ¬ b < 0xC2 ∧ ¬ b < 0xE0 ∧ b ≠ 0xE0 ∧ b ≠ 0xED ∧ ¬ b < 0xF0 := by omega
  obtain ⟨ascii, tail, two, three, surrogate, wide⟩ := large
  rw [lead?, if_neg ascii, if_neg tail, if_neg two, if_neg three, if_neg surrogate, if_neg wide]
  by_cases first : b = 0xF0
  · simp [first]
  by_cases last : b = 0xF4
  · simp [last]
  have inner : b < 0xF4 := by omega
  simp [first, last, inner]

private theorem decodeUtf8_of_two {v : Nat} {a b : UInt8} (first : a.toNat = v / 0x40 + 0xC0)
    (second : b.toNat = v % 0x40 + 0x80) (lower : 0x80 ≤ v) (upper : v < 0x800)
    (rest : List UInt8) : decodeUtf8 (a :: b :: rest) = Char.ofNat v :: decodeUtf8 rest := by
  have begins := lead?_of_two (b := a.toNat) (by omega) (by omega)
  have value : (a.toNat - 0xC0) * 0x40 + (b.toNat - 0x80) = v := by omega
  rw [decodeUtf8_cons_of_lead begins (by decide), decodeFrom_last (by omega), value]

private theorem decodeUtf8_of_three {v : Nat} {a b c : UInt8} (first : a.toNat = v / 0x1000 + 0xE0)
    (second : b.toNat = v / 0x40 % 0x40 + 0x80) (third : c.toNat = v % 0x40 + 0x80)
    (lower : 0x800 ≤ v) (upper : v < 0x10000) (valid : v < 0xD800 ∨ 0xDFFF < v)
    (rest : List UInt8) : decodeUtf8 (a :: b :: c :: rest) = Char.ofNat v :: decodeUtf8 rest := by
  have begins := lead?_of_three (b := a.toNat) (by omega) (by omega)
  have value : ((a.toNat - 0xE0) * 0x40 + (b.toNat - 0x80)) * 0x40 + (c.toNat - 0x80) = v := by
    omega
  have within : (if a.toNat = 0xE0 then 0xA0 else 0x80) ≤ b.toNat ∧
      b.toNat ≤ (if a.toNat = 0xED then 0x9F else 0xBF) := by
    constructor <;> split <;> omega
  rw [decodeUtf8_cons_of_lead begins (by decide), decodeFrom_next within,
    decodeFrom_last (by omega), value]

private theorem decodeUtf8_of_four {v : Nat} {a b c d : UInt8}
    (first : a.toNat = v / 0x40000 + 0xF0)
    (second : b.toNat = v / 0x1000 % 0x40 + 0x80) (third : c.toNat = v / 0x40 % 0x40 + 0x80)
    (fourth : d.toNat = v % 0x40 + 0x80) (lower : 0x10000 ≤ v) (upper : v < 0x110000)
    (rest : List UInt8) :
    decodeUtf8 (a :: b :: c :: d :: rest) = Char.ofNat v :: decodeUtf8 rest := by
  have begins := lead?_of_four (b := a.toNat) (by omega) (by omega)
  have value : (((a.toNat - 0xF0) * 0x40 + (b.toNat - 0x80)) * 0x40 + (c.toNat - 0x80)) * 0x40 +
      (d.toNat - 0x80) = v := by
    omega
  have within : (if a.toNat = 0xF0 then 0x90 else 0x80) ≤ b.toNat ∧
      b.toNat ≤ (if a.toNat = 0xF4 then 0x8F else 0xBF) := by
    constructor <;> split <;> omega
  rw [decodeUtf8_cons_of_lead begins (by decide), decodeFrom_next within,
    decodeFrom_next (by omega), decodeFrom_last (by omega), value]

theorem toNat_byte {n : Nat} (narrow : n < 256) : (UInt8.ofNat n).toNat = n := by
  rw [UInt8.toNat_ofNat']
  omega

private theorem decodeUtf8_utf8EncodeChar (c : Char) (bytes : List UInt8) :
    decodeUtf8 (String.utf8EncodeChar c ++ bytes) = c :: decodeUtf8 bytes := by
  have whole : Char.ofNat c.val.toNat = c := Char.ofNat_toNat c
  have valid : c.val.toNat < 0xD800 ∨ 0xDFFF < c.val.toNat ∧ c.val.toNat < 0x110000 := c.valid
  unfold String.utf8EncodeChar
  generalize c.val.toNat = v at *
  subst whole
  dsimp only
  split
  · have first : (UInt8.ofNat v).toNat = v := toNat_byte (by omega)
    rw [List.cons_append, decodeUtf8_cons_of_lt (by omega), charOf, first]
    rfl
  split
  · exact decodeUtf8_of_two ((toNat_byte (by omega)).trans (by omega)) (toNat_byte (by omega))
      (by omega) (by omega) bytes
  split
  · exact decodeUtf8_of_three ((toNat_byte (by omega)).trans (by omega)) (toNat_byte (by omega))
      (toNat_byte (by omega)) (by omega) (by omega) (by omega) bytes
  · exact decodeUtf8_of_four ((toNat_byte (by omega)).trans (by omega)) (toNat_byte (by omega))
      (toNat_byte (by omega)) (toNat_byte (by omega)) (by omega) (by omega) bytes

private theorem byteArray_toList (bytes : ByteArray) : bytes.toList = bytes.data.toList := by
  -- The induction is on the number of bytes left behind place `i`.
  have loop : ∀ (left i : Nat) (listed : List UInt8), left = bytes.size - i →
      ByteArray.toList.loop bytes i listed = listed.reverse ++ bytes.data.toList.drop i := by
    intro left
    induction left with
    | zero =>
      intro i listed all
      have past : bytes.data.toList.length ≤ i := by
        rw [Array.length_toList]
        exact Nat.le_of_sub_eq_zero all.symm
      rw [ByteArray.toList.loop, if_neg (by omega), List.drop_of_length_le past, List.append_nil]
    | succ left ih =>
      intro i listed some
      have within : i < bytes.size := by omega
      have within' : i < bytes.data.toList.length := by
        rw [Array.length_toList]
        exact within
      have byte : bytes.get! i = bytes.data.toList[i] := getElem!_pos bytes.data i within
      rw [ByteArray.toList.loop, if_pos within, ih (i + 1) _ (by omega),
        List.drop_eq_getElem_cons within', byte, List.reverse_cons, List.append_assoc]
      rfl
  exact loop bytes.size 0 [] rfl

theorem encodeUtf8_eq (s : String) : encodeUtf8 s = s.toList.flatMap String.utf8EncodeChar := by
  have bytes : s.toUTF8 = (s.toList.flatMap String.utf8EncodeChar).toByteArray :=
    String.utf8Encode_toList.symm
  rw [encodeUtf8, byteArray_toList, bytes, List.toList_data_toByteArray]

private theorem decodeUtf8_encodeUtf8_append (s : String) (bytes : List UInt8) :
    decodeUtf8 (encodeUtf8 s ++ bytes) = s.toList ++ decodeUtf8 bytes := by
  rw [encodeUtf8_eq]
  induction s.toList with
  | nil => rfl
  | cons c cs ih =>
    rw [List.flatMap_cons, List.append_assoc, decodeUtf8_utf8EncodeChar, ih, List.cons_append]

theorem decodeUtf8_encodeUtf8 (s : String) : decodeUtf8 (encodeUtf8 s) = s.toList := by
  have read := decodeUtf8_encodeUtf8_append s []
  rwa [List.append_nil, decodeUtf8_eq_nil.mpr rfl, List.append_nil] at read

end Written

end PromptCanvas.Text

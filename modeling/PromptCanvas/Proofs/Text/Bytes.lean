import PromptCanvas.Proofs.Text.Utf8

set_option autoImplicit false
set_option relaxedAutoImplicit false

namespace PromptCanvas.Text

def bytesOf (cs : List Char) : List UInt8 := cs.flatMap String.utf8EncodeChar

variable {cs : List Char} {c : Char} {b : UInt8} {front part back : List UInt8}

theorem bytesOf_cons (c : Char) (cs : List Char) :
    bytesOf (c :: cs) = String.utf8EncodeChar c ++ bytesOf cs := rfl

theorem bytesOf_append (cs ds : List Char) : bytesOf (cs ++ ds) = bytesOf cs ++ bytesOf ds :=
  List.flatMap_append

theorem small_or_large (mem : b ∈ String.utf8EncodeChar c) :
    (c = charOf b ∧ b.toNat < 0x80 ∧ String.utf8EncodeChar c = [b]) ∨
      (0x80 ≤ c.toNat ∧ 0x80 ≤ b.toNat) := by
  have whole : Char.ofNat c.val.toNat = c := Char.ofNat_toNat c
  have number : c.toNat = c.val.toNat := rfl
  rw [number]
  unfold String.utf8EncodeChar at mem ⊢
  generalize c.val.toNat = v at *
  dsimp only at mem ⊢
  split at mem
  · next small =>
    obtain rfl := List.mem_singleton.mp mem
    have same : (UInt8.ofNat v).toNat = v := toNat_byte (by omega)
    refine .inl ⟨?_, by omega, if_pos small⟩
    rw [charOf, same, whole]
  · next large =>
    refine .inr ⟨by omega, ?_⟩
    have high {low : Nat} (above : 0x80 ≤ low) (narrow : low < 256) :
        0x80 ≤ (UInt8.ofNat low).toNat := by
      rwa [toNat_byte narrow]
    repeat' split at mem
    all_goals
      simp only [List.mem_cons, List.not_mem_nil, or_false] at mem
      rcases mem with rfl | rfl | rfl | rfl <;> exact high (by omega) (by omega)

private theorem utf8EncodeChar_charOf (small : b.toNat < 0x80) :
    String.utf8EncodeChar (charOf b) = [b] := by
  have number := toNat_charOf small
  cases bytes : String.utf8EncodeChar (charOf b) with
  | nil => exact absurd bytes String.utf8EncodeChar_ne_nil
  | cons a more =>
    have mem : a ∈ String.utf8EncodeChar (charOf b) := by rw [bytes]; exact List.mem_cons_self
    rcases small_or_large mem with ⟨same, narrow, alone⟩ | ⟨large, -⟩
    · obtain rfl := (charOf_inj small narrow).mp same
      rw [← bytes, alone]
    · omega

theorem bytesOf_map_charOf (small : ∀ b ∈ part, b.toNat < 0x80) :
    bytesOf (part.map charOf) = part := by
  induction part with
  | nil => rfl
  | cons b part ih =>
    obtain ⟨first, others⟩ := List.forall_mem_cons.mp small
    rw [List.map_cons, bytesOf_cons, utf8EncodeChar_charOf first, ih others]
    rfl

theorem map_charOf_bytesOf (small : ∀ b ∈ bytesOf cs, b.toNat < 0x80) :
    (bytesOf cs).map charOf = cs := by
  induction cs with
  | nil => rfl
  | cons c cs ih =>
    rw [bytesOf_cons] at small ⊢
    obtain ⟨b, more, bytes⟩ := List.exists_cons_of_ne_nil (String.utf8EncodeChar_ne_nil (c := c))
    have mem : b ∈ String.utf8EncodeChar c := by rw [bytes]; exact List.mem_cons_self
    have narrow := small b (List.mem_append_left _ mem)
    rcases small_or_large mem with ⟨rfl, -, alone⟩ | ⟨-, large⟩
    · rw [alone, List.singleton_append, List.map_cons,
        ih fun b mem => small b (List.mem_append_right _ mem)]
    · omega

theorem bytesOf_eq_nil : bytesOf cs = [] ↔ cs = [] := by
  cases cs with
  | nil => simp [bytesOf]
  | cons c cs => simp [bytesOf_cons, String.utf8EncodeChar_ne_nil]

private theorem exists_cut_at (small : b.toNat < 0x80) (eq : bytesOf cs = front ++ b :: back) :
    ∃ before after, cs = before ++ charOf b :: after ∧ bytesOf before = front ∧
      bytesOf after = back := by
  induction cs generalizing front with
  | nil => simp [bytesOf] at eq
  | cons c cs ih =>
    rw [bytesOf_cons] at eq
    rcases List.append_eq_append_iff.mp eq with ⟨between, rfl, later⟩ | ⟨between, whole, later⟩
    · obtain ⟨before, after, rfl, here, there⟩ := ih later
      exact ⟨c :: before, after, rfl, by rw [bytesOf_cons, here], there⟩
    · cases between with
      | nil =>
        have cut : bytesOf cs = [] ++ b :: back := later.symm
        obtain ⟨before, after, rfl, here, there⟩ := ih cut
        exact ⟨c :: before, after, rfl, by simp [bytesOf_cons, here, whole], there⟩
      | cons a between =>
        obtain ⟨rfl, rfl⟩ := List.cons.inj later
        have mem : b ∈ String.utf8EncodeChar c := by rw [whole]; simp
        rcases small_or_large mem with ⟨rfl, -, alone⟩ | ⟨-, large⟩
        · rw [alone] at whole
          cases front with
          | nil =>
            obtain rfl : between = [] := by simpa using whole.symm
            exact ⟨[], cs, rfl, rfl, rfl⟩
          | cons x front => simp at whole
        · omega

theorem exists_cut (some : part ≠ []) (small : ∀ b ∈ part, b.toNat < 0x80)
    (eq : bytesOf cs = front ++ (part ++ back)) :
    ∃ before after, cs = before ++ (part.map charOf ++ after) ∧ bytesOf before = front ∧
      bytesOf after = back := by
  induction part generalizing cs front with
  | nil => exact absurd rfl some
  | cons b part ih =>
    obtain ⟨first, others⟩ := List.forall_mem_cons.mp small
    obtain ⟨before, after, rfl, here, there⟩ := exists_cut_at first eq
    cases part with
    | nil => exact ⟨before, after, rfl, here, there⟩
    | cons b' part =>
      have cut : bytesOf after = [] ++ (b' :: part ++ back) := there
      obtain ⟨between, rest, rfl, none, behind⟩ := ih (List.cons_ne_nil b' part) others cut
      obtain rfl := bytesOf_eq_nil.mp none
      exact ⟨before, rest, rfl, here, behind⟩

end PromptCanvas.Text

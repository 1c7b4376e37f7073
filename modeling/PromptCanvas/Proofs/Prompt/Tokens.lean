import Mathlib.Data.List.Induction
import PromptCanvas.Prompt.Reference
import PromptCanvas.Proofs.Text.Numeral
import PromptCanvas.Proofs.Text.Words

/-!
What the scanner of references finds.

`Stands` says by the grammar alone what a reference in a text is.  The scanner passes over one
character or one reference at a time; no reference can begin inside another, for none of its
characters but the first is an `@`.  So the scanner finds what stands in the text, and nothing else.
-/

set_option autoImplicit false
set_option relaxedAutoImplicit false

namespace PromptCanvas.Reference

/-- The digits of a reference with an id, before some text: as many as stand there, and the decimal
digits of a positive 32-bit number. -/
structure Spelled (id : Nat) (digits after : List Char) : Prop where
  nonempty : digits ≠ []
  decimal : ∀ c ∈ digits, c.isDigit = true
  maximal : ∀ c ∈ after.head?, c.isDigit = false
  value : Text.numeralValue digits = id
  positive : 0 < id
  bounded : id ≤ Text.max32

/-- A reference in a text, by what stands before and behind it: no letter or digit of ASCII is right
before it. -/
structure Stands (text before : List Char) (id : Nat) (digits after : List Char) : Prop extends
    Spelled id digits after where
  text : text = before ++ (opening ++ digits ++ after)
  apart : ∀ c ∈ before.getLast?, c.isAlphanum = false

section Reading

variable {cs after : List Char} {ds : List Char} {id : Nat} {c : Char}

private theorem not_isDigit_rest : ∀ c ∈ (rest cs).head?, c.isDigit = false := by
  intro c mem
  have stops := List.head?_dropWhile_not Char.isDigit (cs.drop opening.length)
  rw [Option.mem_def, rest] at mem
  rw [mem] at stops
  exact stops

theorem opening_append_digits_append_rest (opened : opening <+: cs) :
    opening ++ digits cs ++ rest cs = cs := by
  obtain ⟨more, rfl⟩ := opened
  rw [digits, rest, List.drop_left, List.append_assoc, List.takeWhile_append_dropWhile]

theorem digits_eq (decimal : ∀ c ∈ ds, c.isDigit = true)
    (maximal : ∀ c ∈ after.head?, c.isDigit = false) : digits (opening ++ ds ++ after) = ds := by
  rw [digits, List.append_assoc, List.drop_left, List.takeWhile_append_of_pos decimal]
  cases after with
  | nil => simp
  | cons c after => simp [maximal c rfl]

private theorem rest_eq (decimal : ∀ c ∈ ds, c.isDigit = true)
    (maximal : ∀ c ∈ after.head?, c.isDigit = false) : rest (opening ++ ds ++ after) = after := by
  rw [rest, List.append_assoc, List.drop_left, List.dropWhile_append_of_pos decimal]
  cases after with
  | nil => rfl
  | cons c after => simp [maximal c rfl]

theorem Spelled.notMem_letters (spelled : Spelled id ds after) (letter : c ∉ "img".toList)
    (digit : c.isDigit = false) : c ∉ "img".toList ++ ds := by
  intro mem
  rcases List.mem_append.mp mem with inside | behind
  · exact letter inside
  · rw [spelled.decimal c behind] at digit
    cases digit

theorem Spelled.notMem (spelled : Spelled id ds after) (letter : c ∉ opening)
    (digit : c.isDigit = false) : c ∉ opening ++ ds := by
  obtain ⟨not_at, letter⟩ := not_or.mp (List.mem_cons.not.mp letter)
  exact List.mem_cons.not.mpr (not_or.mpr ⟨not_at, spelled.notMem_letters letter digit⟩)

theorem at?_eq_some_iff :
    at? cs = some id ↔ opening <+: cs ∧ Spelled id (digits cs) (rest cs) := by
  unfold at?
  constructor
  · intro found
    split at found
    · next opened =>
      split at found
      · cases found
      · next nonzero =>
        obtain ⟨nonempty, decimal, value, bounded⟩ := Text.digits?_eq_some_iff.mp found
        have positive : 0 < id := by
          refine Nat.pos_of_ne_zero fun zero => ?_
          subst zero
          exact nonzero found
        exact ⟨List.isPrefixOf_iff_prefix.mp opened, nonempty, decimal, not_isDigit_rest, value,
          positive, bounded⟩
    · cases found
  · rintro ⟨opened, spelled⟩
    have number := Text.digits?_eq_some_iff.mpr
      ⟨spelled.nonempty, spelled.decimal, spelled.value, spelled.bounded⟩
    rw [if_pos (List.isPrefixOf_iff_prefix.mpr opened), number]
    split
    · next zero =>
      have none : id = 0 := Option.some.inj zero
      exact absurd spelled.positive (by omega)
    · rfl

theorem at?_of_spelled (spelled : Spelled id ds after) :
    at? (opening ++ ds ++ after) = some id := by
  refine at?_eq_some_iff.mpr ⟨⟨ds ++ after, by simp⟩, ?_⟩
  rwa [digits_eq spelled.decimal spelled.maximal, rest_eq spelled.decimal spelled.maximal]

theorem spelled_congr {more : List Char} (same : (∀ c ∈ after.head?, c.isDigit = false) ↔
    ∀ c ∈ more.head?, c.isDigit = false) : Spelled id ds after ↔ Spelled id ds more := by
  constructor
  · rintro ⟨nonempty, decimal, maximal, value, positive, bounded⟩
    exact ⟨nonempty, decimal, same.mp maximal, value, positive, bounded⟩
  · rintro ⟨nonempty, decimal, maximal, value, positive, bounded⟩
    exact ⟨nonempty, decimal, same.mpr maximal, value, positive, bounded⟩

private theorem spelled_append_cons {more : List Char} (stop : c.isDigit = false) :
    Spelled id ds (after ++ c :: more) ↔ Spelled id ds after := by
  refine spelled_congr ?_
  cases after with
  | nil => simp [stop]
  | cons x after => simp

private theorem at?_of_ne (not_at : c ≠ '@') : at? (c :: cs) = none := by
  refine Option.eq_none_iff_forall_ne_some.mpr fun id found => ?_
  obtain ⟨⟨more, same⟩, -⟩ := at?_eq_some_iff.mp found
  exact not_at (List.cons.inj same).1.symm

private theorem exists_of_at?_append {before more : List Char} {x : Char}
    (letter : x ∉ "img".toList)
    (digit : x.isDigit = false) (found : at? (c :: (before ++ x :: more)) = some id) :
    ∃ ds between, c :: before = opening ++ ds ++ between ∧
      Spelled id ds (between ++ x :: more) := by
  obtain ⟨opened, spelled⟩ := at?_eq_some_iff.mp found
  have parts := opening_append_digits_append_rest opened
  generalize digits (c :: (before ++ x :: more)) = ds at parts spelled
  generalize rest (c :: (before ++ x :: more)) = after at parts spelled
  have out := spelled.notMem_letters letter digit
  obtain ⟨rfl, same⟩ := List.cons.inj parts
  obtain ⟨between, rfl, rfl⟩ := Text.exists_between out same
  exact ⟨ds, between, rfl, spelled⟩

end Reading

section Scanning

variable {cs before after ds : List Char} {free : Bool} {id : Nat} {c : Char}

def textOf (tokens : List Token) : List Char := tokens.flatMap Token.text

theorem textOf_cons (t : Token) (ts : List Token) : textOf (t :: ts) = t.text ++ textOf ts := rfl

/-- Whether a reference may start behind a text, if one may start before it or may not. -/
def freeAfter (free : Bool) (before : List Char) : Bool :=
  before.foldl (fun _ c => !c.isAlphanum) free

theorem freeAfter_append (free : Bool) (before more : List Char) :
    freeAfter free (before ++ more) = freeAfter (freeAfter free before) more :=
  List.foldl_append

theorem freeAfter_eq_true_iff :
    freeAfter free before = true ↔
      (before = [] → free = true) ∧ ∀ c ∈ before.getLast?, c.isAlphanum = false := by
  cases before using List.reverseRecOn with
  | nil => simp [freeAfter]
  | append_singleton before c => simp [freeAfter]

private theorem freeAfter_of_decimal (nonempty : ds ≠ []) (decimal : ∀ c ∈ ds, c.isDigit = true) :
    freeAfter free ds = false := by
  cases ds using List.reverseRecOn with
  | nil => exact absurd rfl nonempty
  | append_singleton ds c =>
    have digit : c.isDigit = true := decimal c (by simp)
    simp [freeAfter, Char.isAlphanum, digit]

theorem freeAfter_reference (free : Bool) (nonempty : ds ≠ [])
    (decimal : ∀ c ∈ ds, c.isDigit = true) : freeAfter free (opening ++ ds) = false := by
  rw [freeAfter_append, freeAfter_of_decimal nonempty decimal]

private theorem tokensFrom_of_at? (found : at? cs = some id) :
    tokensFrom true cs = .reference id (digits cs) :: tokensFrom false (rest cs) := by
  cases cs with
  | nil => cases found
  | cons c more =>
    rw [tokensFrom]
    exact found

theorem tokensFrom_reference (spelled : Spelled id ds after) :
    tokensFrom true (opening ++ ds ++ after) = .reference id ds :: tokensFrom false after := by
  rw [tokensFrom_of_at? (at?_of_spelled spelled), digits_eq spelled.decimal spelled.maximal,
    rest_eq spelled.decimal spelled.maximal]

theorem tokensFrom_of_not_at? (none : free = true → at? (c :: cs) = none) :
    tokensFrom free (c :: cs) = .char c :: tokensFrom (!c.isAlphanum) cs := by
  rw [tokensFrom]
  intro id free found
  rw [none free] at found
  cases found

theorem textOf_tokensFrom (free : Bool) (cs : List Char) : textOf (tokensFrom free cs) = cs := by
  fun_induction tokensFrom free cs with
  | case1 => rfl
  | case2 c more id found ih =>
    have opened := (at?_eq_some_iff.mp found).1
    rw [textOf_cons, ih]
    exact opening_append_digits_append_rest opened
  | case3 free c more none ih =>
    rw [textOf_cons, ih]
    rfl

private theorem spelled_of_tokensFrom {earlier later : List Token}
    (cut : tokensFrom free cs = earlier ++ .reference id ds :: later) :
    freeAfter free (textOf earlier) = true ∧ Spelled id ds (textOf later) := by
  fun_induction tokensFrom free cs generalizing earlier with
  | case1 => simp at cut
  | case2 c more id' found ih =>
    obtain ⟨-, spelled⟩ := at?_eq_some_iff.mp found
    cases earlier with
    | nil =>
      obtain ⟨same, rfl⟩ := List.cons.inj cut
      obtain ⟨rfl, rfl⟩ := Token.reference.inj same
      rw [textOf_tokensFrom]
      exact ⟨rfl, spelled⟩
    | cons first earlier =>
      obtain ⟨rfl, behind⟩ := List.cons.inj cut
      obtain ⟨free, later⟩ := ih behind
      refine ⟨?_, later⟩
      have bound := freeAfter_reference true spelled.nonempty spelled.decimal
      rwa [textOf_cons, Token.text, freeAfter_append, bound]
  | case3 free c more none ih =>
    cases earlier with
    | nil => cases (List.cons.inj cut).1
    | cons first earlier =>
      obtain ⟨rfl, behind⟩ := List.cons.inj cut
      exact ih behind

private theorem exists_tokensFrom (spelled : Spelled id ds after)
    (unbound : freeAfter free before = true) :
    ∃ earlier later, tokensFrom free (before ++ (opening ++ ds ++ after)) =
        earlier ++ .reference id ds :: later ∧ textOf earlier = before ∧ textOf later = after := by
  induction length : before.length using Nat.strongRecOn generalizing before free with
  | ind n ih =>
    cases before with
    | nil =>
      obtain rfl : free = true := unbound
      exact ⟨[], tokensFrom false after, tokensFrom_reference spelled, rfl,
        textOf_tokensFrom false after⟩
    | cons c before =>
      by_cases another : free = true ∧ ∃ other,
          at? (c :: (before ++ (opening ++ ds ++ after))) = some other
      · -- The scanner takes another reference first, and that one ends before this one begins.
        obtain ⟨rfl, other, found⟩ := another
        obtain ⟨digits', between, parts, first⟩ :=
          exists_of_at?_append (x := '@') (by decide) (by decide) found
        change Spelled other digits' (between ++ (opening ++ ds ++ after)) at first
        have bound := freeAfter_reference true first.nonempty first.decimal
        rw [parts] at unbound length ⊢
        have behind : freeAfter false between = true := by
          rwa [freeAfter_append, bound] at unbound
        have shorter : between.length < n := by
          rw [← length]
          have some : 0 < opening.length := by decide
          simp only [List.length_append]
          omega
        obtain ⟨earlier, later, cut, front, back⟩ := ih _ shorter behind rfl
        refine ⟨.reference other digits' :: earlier, later, ?_, ?_, back⟩
        · rw [List.append_assoc, List.cons_append, ← cut]
          exact tokensFrom_reference first
        · rw [textOf_cons, front]
          rfl
      · have none : free = true → at? (c :: (before ++ (opening ++ ds ++ after))) = none :=
          fun unbound => Option.eq_none_iff_forall_ne_some.mpr fun other found =>
            another ⟨unbound, other, found⟩
        have behind : freeAfter (!c.isAlphanum) before = true := unbound
        have shorter : before.length < n := by
          rw [← length]
          exact Nat.lt_succ_self _
        obtain ⟨earlier, later, cut, front, back⟩ := ih _ shorter behind rfl
        refine ⟨.char c :: earlier, later, ?_, ?_, back⟩
        · rw [List.cons_append, tokensFrom_of_not_at? none, cut, List.cons_append]
        · rw [textOf_cons, front]
          rfl

theorem stands_iff :
    Stands cs before id ds after ↔ ∃ earlier later,
      tokens cs = earlier ++ .reference id ds :: later ∧
        textOf earlier = before ∧ textOf later = after := by
  constructor
  · intro stands
    obtain ⟨spelled, text, apart⟩ := stands
    subst text
    exact exists_tokensFrom spelled (freeAfter_eq_true_iff.mpr ⟨fun _ => rfl, apart⟩)
  · rintro ⟨earlier, later, cut, rfl, rfl⟩
    obtain ⟨unbound, spelled⟩ := spelled_of_tokensFrom cut
    refine ⟨spelled, ?_, (freeAfter_eq_true_iff.mp unbound).2⟩
    rw [← textOf_tokensFrom true cs, ← tokens, cut]
    simp [textOf, Token.text]

/-- No reference goes on past a character that has no place in one, and one may start behind it. -/
theorem tokensFrom_append_cons {rest : List Char} (free : Bool) (cs : List Char)
    (foreign : c.isAlphanum = false) (not_at : c ≠ '@') :
    tokensFrom free (cs ++ c :: rest) = tokensFrom free cs ++ .char c :: tokens rest := by
  have no_digit : c.isDigit = false := by
    rw [Char.isAlphanum, Bool.or_eq_false_iff] at foreign
    exact foreign.2
  have no_letter : c ∉ "img".toList := by
    intro mem
    have letters : ∀ l ∈ "img".toList, l.isAlphanum = true := by simp
    rw [letters c mem] at foreign
    cases foreign
  fun_induction tokensFrom free cs with
  | case1 =>
    rw [List.nil_append, tokensFrom_of_not_at? fun _ => at?_of_ne not_at, foreign]
    rfl
  | case2 d more id found ih =>
    obtain ⟨opened, spelled⟩ := at?_eq_some_iff.mp found
    have parts := opening_append_digits_append_rest opened
    have longer : Spelled id (digits (d :: more)) (Reference.rest (d :: more) ++ c :: rest) :=
      (spelled_append_cons no_digit).mpr spelled
    have whole : d :: more ++ c :: rest =
        opening ++ digits (d :: more) ++ (Reference.rest (d :: more) ++ c :: rest) := by
      rw [← List.append_assoc, parts]
    rw [whole, tokensFrom_reference longer, ih, List.cons_append]
  | case3 free d more none ih =>
    have still : free = true → at? (d :: (more ++ c :: rest)) = Option.none := by
      intro unbound
      refine Option.eq_none_iff_forall_ne_some.mpr fun id found => none id unbound ?_
      obtain ⟨ds, between, parts, spelled⟩ := exists_of_at?_append no_letter no_digit found
      rw [parts]
      exact at?_of_spelled ((spelled_append_cons no_digit).mp spelled)
    rw [List.cons_append, tokensFrom_of_not_at? still, ih]
    rfl

theorem tokensFrom_cons {rest : List Char} (free : Bool) (foreign : c.isAlphanum = false)
    (not_at : c ≠ '@') : tokensFrom free (c :: rest) = .char c :: tokens rest := by
  rw [← List.nil_append (c :: rest), tokensFrom_append_cons free [] foreign not_at, tokensFrom,
    List.nil_append]

theorem tokensFrom_append_of_notMem {rest : List Char} (free : Bool) (plain : '@' ∉ cs) :
    tokensFrom free (cs ++ rest) = cs.map .char ++ tokensFrom (freeAfter free cs) rest := by
  induction cs generalizing free with
  | nil => rfl
  | cons c cs ih =>
    obtain ⟨not_at, plain⟩ := not_or.mp (List.mem_cons.not.mp plain)
    have none : at? (c :: (cs ++ rest)) = none := at?_of_ne fun same => not_at same.symm
    rw [List.cons_append, tokensFrom_of_not_at? fun _ => none, ih _ plain]
    rfl

end Scanning

section Ids

variable {cs : List Char} {id : Nat}

theorem distinct_eq (ids : List Nat) : distinct ids = ids.eraseDups := by
  suffices all : ∀ seen, ids.foldl (fun seen id => if id ∈ seen then seen else seen ++ [id]) seen =
      seen ++ (ids.filter (· ∉ seen)).eraseDups by
    simpa [distinct] using all []
  induction ids with
  | nil => simp
  | cons id ids ih =>
    intro seen
    rw [List.foldl_cons, ih]
    by_cases known : id ∈ seen
    · rw [if_pos known, List.filter_cons_of_neg (by simpa using known)]
    · rw [if_neg known, List.filter_cons_of_pos (by simpa using known), List.eraseDups_cons,
        List.append_assoc, List.singleton_append, List.filter_filter]
      have same : (fun other => decide (other ∉ seen ++ [id])) =
          fun other => !other == id && decide (other ∉ seen) := by
        funext other
        simp [and_comm, beq_eq_decide]
      rw [same]

private theorem nodup_eraseDups (ids : List Nat) : ids.eraseDups.Nodup := by
  induction length : ids.length using Nat.strongRecOn generalizing ids with
  | ind n ih =>
    cases ids with
    | nil => simp
    | cons id ids =>
      have shorter : (ids.filter fun other => !other == id).length < n := by
        rw [← length]
        exact Nat.lt_succ_of_le (List.length_filter_le _ _)
      rw [List.eraseDups_cons, List.nodup_cons, List.mem_eraseDups]
      exact ⟨by simp, ih _ shorter _ rfl⟩

theorem mem_ids_iff : id ∈ ids cs ↔ ∃ before ds after, Stands cs before id ds after := by
  rw [ids, distinct_eq, List.mem_eraseDups, List.mem_filterMap]
  constructor
  · rintro ⟨t, mem, named⟩
    cases t with
    | char c => cases named
    | reference id' ds =>
      obtain rfl : id' = id := Option.some.inj named
      obtain ⟨earlier, later, cut⟩ := List.append_of_mem mem
      exact ⟨_, ds, _, stands_iff.mpr ⟨earlier, later, cut, rfl, rfl⟩⟩
  · rintro ⟨before, ds, after, stands⟩
    obtain ⟨earlier, later, cut, -, -⟩ := stands_iff.mp stands
    exact ⟨.reference id ds, by simp [cut], rfl⟩

theorem nodup_ids (cs : List Char) : (ids cs).Nodup := by
  rw [ids, distinct_eq]
  exact nodup_eraseDups _

end Ids

end PromptCanvas.Reference

import PromptCanvas.Prompt
import PromptCanvas.Proofs.Prompt.Directive
import PromptCanvas.Proofs.Prompt.Tokens

/-!
Which characters of a text belong to no directive and to no reference.

Directives and references are marks.  A mark has its `@` at its beginning, so no two marks of a text
overlap, and what a text has beside its marks can be told character by character.
-/

set_option autoImplicit false
set_option relaxedAutoImplicit false

namespace PromptCanvas

namespace Directive

def Holds (cs : List Char) (i : Nat) : Prop :=
  ∃ before part after, cs = before ++ (part ++ after) ∧ IsDirective part ∧
    before.length ≤ i ∧ i < before.length + part.length

section Strips

variable {cs s front after : List Char}

private theorem Strips.append_left (strips : Strips (front ++ after) s) (plain : '(' ∉ front) :
    ∃ s', s = front ++ s' ∧ Strips after s' := by
  induction front generalizing s with
  | nil => exact ⟨s, rfl, strips⟩
  | cons c front ih =>
    obtain ⟨other, plain⟩ := not_or.mp (List.mem_cons.not.mp plain)
    generalize whole : c :: front ++ after = cs at strips
    cases strips with
    | nil => cases whole
    | char shut strips =>
      obtain ⟨rfl, rfl⟩ := List.cons.inj whole
      obtain ⟨s', rfl, later⟩ := ih strips plain
      exact ⟨s', rfl, later⟩
    | directive spelled =>
      obtain ⟨size, rfl, -⟩ := opening_shape spelled
      exact absurd (List.cons.inj whole).1.symm other

private theorem Strips.append_right {s' : List Char} (strips : Strips cs (front ++ s'))
    (solid : ' ' ∉ front) : ∃ after, cs = front ++ after ∧ Strips after s' := by
  induction front generalizing cs with
  | nil => exact ⟨cs, rfl, strips⟩
  | cons c front ih =>
    obtain ⟨other, solid⟩ := not_or.mp (List.mem_cons.not.mp solid)
    cases strips with
    | char shut strips =>
      obtain ⟨after, rfl, later⟩ := ih strips solid
      exact ⟨after, rfl, later⟩
    | directive => exact absurd rfl other

end Strips

end Directive

namespace Reference

def Holds (cs : List Char) (i : Nat) : Prop :=
  ∃ before id digits after, Stands cs before id digits after ∧
    before.length ≤ i ∧ i < before.length + (opening ++ digits).length

section Spelled

variable {cs s ds after : List Char} {id : Nat}

private theorem spelled_iff_of_strips (strips : Directive.Strips cs s) :
    Spelled id ds cs ↔ Spelled id ds s := by
  refine spelled_congr ?_
  cases strips with
  | nil => exact Iff.rfl
  | char => exact Iff.rfl
  | directive spelled =>
    obtain ⟨size, rfl, -⟩ := Directive.opening_shape spelled
    simp

end Spelled

end Reference

namespace Prompt

inductive Mark (free : Bool) (after part : List Char) : Prop
  | directive : Directive.IsDirective part → Mark free after part
  | reference {id : Nat} {ds : List Char} : free = true → Reference.Spelled id ds after →
    part = Reference.opening ++ ds → Mark free after part

def Covered (free : Bool) (cs : List Char) (i : Nat) : Prop :=
  ∃ before part after, cs = before ++ (part ++ after) ∧
    Mark (Reference.freeAfter free before) after part ∧
    before.length ≤ i ∧ i < before.length + part.length

def Bare (free : Bool) (cs : List Char) : Prop :=
  ∃ i c, cs[i]? = some c ∧ ¬ Covered free cs i ∧ Text.isBlank c = false

section Marks

variable {free : Bool} {cs front rest after : List Char} {c : Char} {i : Nat}

theorem covered_iff : Covered true cs i ↔ Directive.Holds cs i ∨ Reference.Holds cs i := by
  constructor
  · rintro ⟨before, part, after, whole, mark, lower, upper⟩
    cases mark with
    | directive directive => exact .inl ⟨before, part, after, whole, directive, lower, upper⟩
    | reference unbound spelled same =>
      subst same
      have apart := (Reference.freeAfter_eq_true_iff.mp unbound).2
      exact .inr ⟨before, _, _, after, ⟨spelled, whole, apart⟩, lower, upper⟩
  · rintro (⟨before, part, after, whole, directive, lower, upper⟩ |
      ⟨before, id, ds, after, ⟨spelled, whole, apart⟩, lower, upper⟩)
    · exact ⟨before, part, after, whole, .directive directive, lower, upper⟩
    · have unbound := Reference.freeAfter_eq_true_iff.mpr ⟨fun _ => rfl, apart⟩
      exact ⟨before, _, after, whole, .reference unbound spelled rfl, lower, upper⟩

def Apart (free : Bool) (front rest : List Char) : Prop :=
  ∀ before part after, front ++ rest = before ++ (part ++ after) →
    Mark (Reference.freeAfter free before) after part →
    before.length < front.length → before.length + part.length ≤ front.length

private theorem covered_append (apart : Apart free front rest) (j : Nat) :
    Covered free (front ++ rest) (front.length + j) ↔
      Covered (Reference.freeAfter free front) rest j := by
  constructor
  · rintro ⟨before, part, after, whole, mark, lower, upper⟩
    have behind : front.length ≤ before.length := by
      by_contra inside
      have within := apart before part after whole mark (by omega)
      omega
    obtain ⟨before, rfl⟩ : front <+: before :=
      List.prefix_of_prefix_length_le ⟨rest, rfl⟩ ⟨part ++ after, whole.symm⟩ behind
    rw [List.append_assoc, List.append_cancel_left_eq] at whole
    rw [Reference.freeAfter_append] at mark
    rw [List.length_append] at lower upper
    exact ⟨before, part, after, whole, mark, by omega, by omega⟩
  · rintro ⟨before, part, after, rfl, mark, lower, upper⟩
    refine ⟨front ++ before, part, after, by simp, ?_, ?_, ?_⟩
    · rwa [Reference.freeAfter_append]
    · rw [List.length_append]
      omega
    · rw [List.length_append]
      omega

private theorem bare_append (apart : Apart free front rest) :
    Bare free (front ++ rest) ↔
      (∃ i c, front[i]? = some c ∧ ¬ Covered free (front ++ rest) i ∧ Text.isBlank c = false) ∨
        Bare (Reference.freeAfter free front) rest := by
  constructor
  · rintro ⟨i, c, here, bare, solid⟩
    by_cases inside : i < front.length
    · rw [List.getElem?_append_left inside] at here
      exact .inl ⟨i, c, here, bare, solid⟩
    · obtain ⟨j, rfl⟩ := Nat.exists_eq_add_of_le (Nat.le_of_not_lt inside)
      rw [List.getElem?_append_right (Nat.le_add_right _ _), Nat.add_sub_cancel_left] at here
      exact .inr ⟨j, c, here, mt (covered_append apart j).mpr bare, solid⟩
  · rintro (⟨i, c, here, bare, solid⟩ | ⟨j, c, here, bare, solid⟩)
    · have inside : i < front.length := (List.getElem?_eq_some_iff.mp here).1
      exact ⟨i, c, by rwa [List.getElem?_append_left inside], bare, solid⟩
    · refine ⟨front.length + j, c, ?_, mt (covered_append apart j).mp bare, solid⟩
      rwa [List.getElem?_append_right (Nat.le_add_right _ _), Nat.add_sub_cancel_left]

private theorem Mark.unique {part : List Char} (mark : Mark free rest front)
    (other : Mark free after part) (whole : front ++ rest = part ++ after) : front = part := by
  cases mark with
  | directive directive =>
    obtain ⟨tail, shape, -⟩ := directive.shape
    cases other with
    | directive directive' => exact directive.unique directive' whole
    | reference unbound spelled same =>
      subst same shape
      exact absurd (List.cons.inj whole).1 (by decide)
  | reference unbound spelled same =>
    subst same
    cases other with
    | directive directive' =>
      obtain ⟨tail, rfl, -⟩ := directive'.shape
      exact absurd (List.cons.inj whole).1 (by decide)
    | reference unbound' spelled' same' =>
      subst same'
      have digits := Reference.digits_eq spelled.decimal spelled.maximal
      rw [whole, Reference.digits_eq spelled'.decimal spelled'.maximal] at digits
      rw [digits]

private theorem Mark.le_of_begins {before part : List Char} (mark : Mark free rest front)
    {free' : Bool} (other : Mark free' after part)
    (whole : front ++ rest = c :: before ++ (part ++ after)) :
    front.length ≤ before.length + 1 := by
  cases mark with
  | directive directive =>
    cases other with
    | directive directive' =>
      obtain ⟨spelled, -, -⟩ := directive'
      rw [List.append_assoc] at whole
      exact directive.length_le spelled whole
    | reference unbound spelled same =>
      subst same
      obtain ⟨tail, rfl, none, some, first⟩ := directive.shape
      have out : '@' ∉ tail ++ [')'] := by simpa using none
      have behind := (List.cons.inj whole).2
      cases before with
      | nil =>
        obtain ⟨a, tail, rfl⟩ := List.exists_cons_of_ne_nil some
        have same : a = 'i' := (List.cons.inj (List.cons.inj behind).2).1
        exact absurd (congrArg Option.some same) first
      | cons d before =>
        have later := (List.cons.inj behind).2
        have beyond := Text.length_le_of_notMem out later
        simp only [List.length_cons] at beyond ⊢
        omega
  | @reference id ds unbound spelled same =>
    subst same
    have behind : ("img".toList ++ ds) ++ rest = before ++ (part ++ after) :=
      (List.cons.inj whole).2
    have beyond : ("img".toList ++ ds).length ≤ before.length := by
      cases other with
      | directive directive =>
        obtain ⟨tail, rfl, -⟩ := directive.shape
        exact Text.length_le_of_notMem (spelled.notMem_letters (by decide) (by decide)) behind
      | reference unbound' spelled' same' =>
        subst same'
        exact Text.length_le_of_notMem (spelled.notMem_letters (by decide) (by decide)) behind
    exact Nat.succ_le_succ beyond

private theorem apart_of_mark (mark : Mark free rest front) : Apart free front rest := by
  intro before part after whole other inside
  cases before with
  | nil =>
    obtain rfl := mark.unique other whole
    exact Nat.le_of_eq (Nat.zero_add _)
  | cons c before =>
    have beyond := mark.le_of_begins other whole
    rw [List.length_cons] at inside
    omega

private theorem bare_of_mark (mark : Mark free rest front) :
    Bare free (front ++ rest) ↔ Bare (Reference.freeAfter free front) rest := by
  rw [bare_append (apart_of_mark mark), or_iff_right]
  rintro ⟨i, c, here, bare, -⟩
  have inside : i < front.length := (List.getElem?_eq_some_iff.mp here).1
  refine bare ⟨[], front, rest, rfl, mark, Nat.zero_le _, ?_⟩
  rwa [List.length_nil, Nat.zero_add]

private theorem bare_cons (plain : ∀ part after, c :: cs = part ++ after → ¬ Mark free after part) :
    Bare free (c :: cs) ↔ Text.isBlank c = false ∨ Bare (!c.isAlphanum) cs := by
  have apart : Apart free [c] cs := by
    intro before part after whole mark inside
    obtain rfl : before = [] := List.length_eq_zero_iff.mp (Nat.lt_one_iff.mp inside)
    exact absurd mark (plain part after whole)
  refine (bare_append apart).trans (or_congr_left ⟨?_, ?_⟩)
  · rintro ⟨i, d, here, -, solid⟩
    obtain ⟨-, rfl⟩ : i = 0 ∧ c = d := by simpa [List.getElem?_singleton] using here
    exact solid
  · intro solid
    refine ⟨0, c, rfl, ?_, solid⟩
    rintro ⟨before, part, after, whole, mark, lower, -⟩
    obtain rfl : before = [] := List.length_eq_zero_iff.mp (Nat.le_zero.mp lower)
    exact plain part after whole mark

private theorem bare_nil : ¬ Bare free [] := by
  rintro ⟨i, c, here, -⟩
  simp at here

end Marks

section Reading

variable {free : Bool} {cs s : List Char}

inductive Reads : Bool → List Char → List Char → Prop
  | nil {free : Bool} : Reads free [] []
  | directive {free : Bool} {part after s : List Char} :
    Directive.IsDirective part → Reads true after s → Reads free (part ++ after) (' ' :: s)
  | reference {id : Nat} {ds after s : List Char} :
    Reference.Spelled id ds after → Reference.Spelled id ds s → Reads false after s →
    Reads true (Reference.opening ++ ds ++ after) (Reference.opening ++ ds ++ s)
  | char {free : Bool} {c : Char} {cs s : List Char} :
    (∀ part after, c :: cs = part ++ after → ¬ Mark free after part) →
    (free = true → Reference.at? (c :: s) = none) →
    Reads (!c.isAlphanum) cs s → Reads free (c :: cs) (c :: s)

theorem reads_of_strips (strips : Directive.Strips cs s) (free : Bool) : Reads free cs s := by
  induction length : cs.length using Nat.strongRecOn generalizing cs s free with
  | ind n ih =>
    cases strips with
    | nil => exact .nil
    | @directive opened inner after s size spelled shut parsed strips =>
      have whole : opened ++ (inner ++ ')' :: after) = opened ++ (inner ++ [')']) ++ after := by
        simp
      have shorter : after.length < n := by
        rw [← length]
        simp only [List.length_append, List.length_cons]
        omega
      rw [whole]
      exact .directive (.intro spelled shut parsed) (ih _ shorter strips true rfl)
    | @char c cs s shut strips =>
      have all : Directive.Strips (c :: cs) (c :: s) := .char shut strips
      by_cases begins : free = true ∧ ∃ id, Reference.at? (c :: s) = some id
      · obtain ⟨rfl, id, found⟩ := begins
        obtain ⟨opened, spelled⟩ := Reference.at?_eq_some_iff.mp found
        rw [← Reference.opening_append_digits_append_rest opened] at all ⊢
        generalize Reference.digits (c :: s) = ds at all spelled ⊢
        generalize Reference.rest (c :: s) = s at all spelled ⊢
        have solid : ' ' ∉ Reference.opening ++ ds := spelled.notMem (by decide) (by decide)
        obtain ⟨after, whole, later⟩ := all.append_right solid
        have shorter : after.length < n := by
          rw [← length, whole, List.length_append]
          simp [Reference.opening]
        rw [whole]
        exact .reference ((Reference.spelled_iff_of_strips later).mpr spelled) spelled
          (ih _ shorter later false rfl)
      · have none : free = true → Reference.at? (c :: s) = Option.none :=
          fun unbound => Option.eq_none_iff_forall_ne_some.mpr fun id found =>
            begins ⟨unbound, id, found⟩
        have shorter : cs.length < n := by
          rw [← length]
          exact Nat.lt_succ_self _
        refine .char ?_ none (ih _ shorter strips _ rfl)
        intro part after whole mark
        cases mark with
        | directive directive =>
          obtain ⟨spelled, -, -⟩ := directive
          rw [whole, List.append_assoc, Directive.opens_append spelled] at shut
          cases shut
        | @reference id ds unbound spelled same =>
          subst same
          rw [whole] at all
          have plain : '(' ∉ Reference.opening ++ ds := spelled.notMem (by decide) (by decide)
          obtain ⟨s', left, later⟩ := all.append_left plain
          have spelled' := (Reference.spelled_iff_of_strips later).mp spelled
          have found := Reference.at?_of_spelled spelled'
          rw [← left, none unbound] at found
          cases found

/-- What is left of a text has words just if the text has a character outside of its marks that is
no white space. -/
theorem any_isWord_iff (reads : Reads free cs s) :
    (Reference.tokensFrom free s).any Reference.Token.isWord = true ↔ Bare free cs := by
  induction reads with
  | nil => simp [Reference.tokensFrom, bare_nil]
  | @directive free part after s directive reads ih =>
    have space : Reference.Token.isWord (.char ' ') = false := by decide
    have unbound : Reference.freeAfter free part = true := by
      obtain ⟨tail, rfl, -⟩ := directive.shape
      simp [Reference.freeAfter]
    rw [Reference.tokensFrom_cons free (by decide) (by decide), bare_of_mark (.directive directive),
      unbound, ← ih, List.any_cons, space, Bool.false_or, Reference.tokens]
  | @reference id ds after s spelled spelled' reads ih =>
    have mark : Mark true after (Reference.opening ++ ds) := .reference rfl spelled rfl
    have bound := Reference.freeAfter_reference true spelled.nonempty spelled.decimal
    rw [Reference.tokensFrom_reference spelled', bare_of_mark mark, bound, ← ih]
    rfl
  | char plain none reads ih =>
    rw [Reference.tokensFrom_of_not_at? none, bare_cons plain, ← ih]
    simp [Reference.Token.isWord]

private theorem filterMap_directive {part : List Char} (directive : Directive.IsDirective part)
    (free : Bool) (after : List Char) :
    (Reference.tokensFrom free (part ++ after)).filterMap Reference.Token.id? =
      (Reference.tokensFrom true after).filterMap Reference.Token.id? := by
  obtain ⟨tail, rfl, plain, some, first⟩ := directive.shape
  have none : Reference.at? ('@' :: (tail ++ [')'] ++ after)) = none := by
    refine Option.eq_none_iff_forall_ne_some.mpr fun id found => ?_
    obtain ⟨⟨more, opened⟩, -⟩ := Reference.at?_eq_some_iff.mp found
    obtain ⟨a, tail, rfl⟩ := List.exists_cons_of_ne_nil some
    have same : 'i' = a := (List.cons.inj (List.cons.inj opened).2).1
    exact first (congrArg Option.some same.symm)
  have unbound (free : Bool) : Reference.freeAfter free (tail ++ [')']) = true := by
    simp [Reference.freeAfter]
  have silent : (tail ++ [')']).filterMap (Reference.Token.id? ∘ Reference.Token.char) = [] := by
    simp [Reference.Token.id?]
  rw [List.cons_append, List.cons_append, Reference.tokensFrom_cons free (by decide) (by decide),
    Reference.tokens, Reference.tokensFrom_of_not_at? fun _ => none,
    Reference.tokensFrom_append_of_notMem _ (by simpa using plain), unbound,
    List.filterMap_cons, Reference.Token.id?, List.filterMap_cons, Reference.Token.id?,
    List.filterMap_append, List.filterMap_map, silent, List.nil_append]

private theorem filterMap_reads (reads : Reads free cs s) :
    (Reference.tokensFrom free s).filterMap Reference.Token.id? =
      (Reference.tokensFrom free cs).filterMap Reference.Token.id? := by
  induction reads with
  | nil => rfl
  | @directive free part after s directive reads ih =>
    rw [filterMap_directive directive, ← ih, Reference.tokensFrom_cons free (by decide) (by decide)]
    rfl
  | reference spelled spelled' reads ih =>
    rw [Reference.tokensFrom_reference spelled, Reference.tokensFrom_reference spelled',
      List.filterMap_cons, List.filterMap_cons, ih]
  | @char free c cs s plain none reads ih =>
    have none' : free = true → Reference.at? (c :: cs) = Option.none := by
      intro unbound
      refine Option.eq_none_iff_forall_ne_some.mpr fun id found => ?_
      obtain ⟨opened, spelled⟩ := Reference.at?_eq_some_iff.mp found
      have whole := (Reference.opening_append_digits_append_rest opened).symm
      exact plain _ _ whole (.reference unbound spelled rfl)
    rw [Reference.tokensFrom_of_not_at? none, Reference.tokensFrom_of_not_at? none',
      List.filterMap_cons, List.filterMap_cons, ih]

theorem ids_of_strips (strips : Directive.Strips cs s) : Reference.ids s = Reference.ids cs := by
  rw [Reference.ids, Reference.ids, Reference.tokens, Reference.tokens,
    filterMap_reads (reads_of_strips strips true)]

end Reading

end Prompt

end PromptCanvas

import PromptCanvas.Proofs.Scene
import PromptCanvas.Proofs.Scene.Layers

/-!
What an operation on layers does to the order of a scene.

Whether an item is picked is all that an operation looks at.  One pass from the top moves a picked
item at most once: by the time it is its turn, the item right above it is a picked one only if all
items above it are.  Working from the bottom is the same in the stack turned over.
-/

set_option autoImplicit false
set_option relaxedAutoImplicit false

namespace PromptCanvas

namespace Layers

variable {β : Type} {picked : β → Bool} {stack : List β}

private theorem raise_cons {rest more : List β} {b : β} {changed : Bool} (a : β)
    (raised : raise picked rest = (b :: more, changed)) :
    raise picked (a :: rest) =
      if picked a && !picked b then (b :: a :: more, true) else (a :: b :: more, changed) := by
  rw [raise, raised]

private theorem raise_eq_nil {changed : Bool} (raised : raise picked stack = ([], changed)) :
    stack = [] := by
  have perm := raise_perm picked stack
  rw [raised] at perm
  exact perm.nil_eq.symm

private theorem filter_raise {kind : β → Bool}
    (apart : ∀ a b, picked a = true → picked b = false → kind a = true → kind b = false)
    (stack : List β) : (raise picked stack).1.filter kind = stack.filter kind := by
  fun_induction raise picked stack with
  | case1 => rfl
  | case2 a rest changed raised =>
    rw [raise_eq_nil raised]
  | case3 a rest b more changed raised passes ih =>
    rw [raised] at ih
    obtain ⟨low, high⟩ : picked a = true ∧ picked b = false := by simpa using passes
    have not_both := apart a b low high
    have head : (a :: rest).filter kind =
        if kind a = true then a :: rest.filter kind else rest.filter kind := List.filter_cons
    rw [head, ← ih]
    cases of_kind : kind a with
    | false => simp [List.filter_cons, of_kind]
    | true => simp [of_kind, not_both of_kind]
  | case4 a rest b more changed raised stays ih =>
    rw [raised] at ih
    simp only [List.filter_cons (x := a), ih]

private theorem map_raise_ne (changed : (raise picked stack).2 = true) :
    (raise picked stack).1.map picked ≠ stack.map picked := by
  fun_induction raise picked stack with
  | case1 => cases changed
  | case2 a rest moved raised ih =>
    rw [raise_eq_nil raised] at raised
    cases raised
    cases changed
  | case3 a rest b more moved raised passes ih =>
    obtain ⟨low, high⟩ : picked a = true ∧ picked b = false := by simpa using passes
    intro same
    obtain ⟨head, -⟩ := List.cons.inj same
    rw [low, high] at head
    cases head
  | case4 a rest b more moved raised stays ih =>
    have ne := ih (by rw [raised]; exact changed)
    rw [raised] at ne
    intro same
    obtain ⟨-, above⟩ := List.cons.inj same
    exact ne above

private theorem picked_bottom_raise {bottom : β} {more : List β} {changed : Bool}
    (raised : raise picked stack = (bottom :: more, changed)) :
    picked bottom = stack.all picked := by
  induction stack generalizing bottom more changed with
  | nil => cases raised
  | cons a rest ih =>
    cases above : raise picked rest with
    | mk top moved =>
      cases top with
      | nil =>
        have none : rest = [] := raise_eq_nil above
        subst none
        cases raised
        simp
      | cons b others =>
        have known : picked b = rest.all picked := ih above
        rw [raise_cons a above] at raised
        rw [List.all_cons, ← known]
        by_cases passes : (picked a && !picked b) = true
        · rw [if_pos passes] at raised
          obtain ⟨low, high⟩ : picked a = true ∧ picked b = false := by simpa using passes
          cases raised
          rw [low, high]
          rfl
        · rw [if_neg passes] at raised
          cases raised
          cases low : picked a with
          | false => rfl
          | true => simpa [low] using passes

/-- A picked item is one place higher if an item that is not picked is above it, and else where it
was. -/
private theorem getElem?_raise {place : Nat} {a : β} (found : stack[place]? = some a)
    (chosen : picked a = true) :
    (raise picked stack).1[if (stack.drop (place + 1)).all picked then place else place + 1]? =
      some a := by
  induction stack generalizing place with
  | nil => cases found
  | cons b rest ih =>
    cases above : raise picked rest with
    | mk top moved =>
      cases top with
      | nil =>
        have none : rest = [] := raise_eq_nil above
        subst none
        have bottom : place = 0 := by
          have inside := (List.getElem?_eq_some_iff.mp found).1
          simpa using inside
        subst bottom
        exact found
      | cons c others =>
        rw [raise_cons b above]
        cases place with
        | zero =>
          obtain rfl : b = a := by simpa using found
          have known : picked c = rest.all picked := picked_bottom_raise above
          rw [List.drop_succ_cons, List.drop_zero, ← known]
          cases picked c <;> simp [chosen]
        | succ place =>
          have later : rest[place]? = some a := by simpa using found
          have there := ih later
          rw [above] at there
          rw [List.drop_succ_cons]
          -- An item that passes the one above it passes none that is picked.
          generalize (rest.drop (place + 1)).all picked = last at there ⊢
          by_cases passes : (picked b && !picked c) = true
          · obtain ⟨-, high⟩ : picked b = true ∧ picked c = false := by simpa using passes
            rw [if_pos passes]
            cases last <;> cases place <;> grind
          · rw [if_neg passes]
            cases last <;> simpa using there

private theorem raise_concat (picked : β → Bool) (stack : List β) (a top : β) :
    raise picked (stack ++ [a, top]) =
      if picked a && !picked top then ((raise picked (stack ++ [top])).1 ++ [a], true)
      else ((raise picked (stack ++ [a])).1 ++ [top], (raise picked (stack ++ [a])).2) := by
  induction stack with
  | nil => rfl
  | cons b rest ih =>
    -- Whichever of the two stays below, the lowest item goes on with what is raised above it.
    have step (last : β) :
        ∃ c more changed, raise picked (rest ++ [last]) = (c :: more, changed) := by
      cases raised : raise picked (rest ++ [last]) with
      | mk found changed =>
        cases found with
        | nil => simpa using raise_eq_nil raised
        | cons c more => exact ⟨c, more, changed, rfl⟩
    by_cases passes : (picked a && !picked top) = true
    · obtain ⟨c, more, changed, raised⟩ := step top
      rw [if_pos passes, raised] at ih
      rw [if_pos passes, List.cons_append, List.cons_append, raise_cons b ih,
        raise_cons b raised]
      split <;> rfl
    · obtain ⟨c, more, changed, raised⟩ := step a
      rw [if_neg passes, raised] at ih
      rw [if_neg passes, List.cons_append, List.cons_append, raise_cons b ih,
        raise_cons b raised]
      split <;> rfl

private theorem lowerOnto_eq_raise (picked : β → Bool) (below : β) (stack : List β) :
    lowerOnto picked below stack =
      ((raise picked (stack.reverse ++ [below])).1.reverse,
        (raise picked (stack.reverse ++ [below])).2) := by
  fun_induction lowerOnto picked below stack with
  | case1 => rfl
  | case2 below a rest passes ih =>
    have turned : (a :: rest).reverse ++ [below] = rest.reverse ++ [a, below] := by simp
    rw [turned, raise_concat, if_pos passes, ih, List.reverse_append]
    rfl
  | case3 below a rest stays lowered changed eq ih =>
    have turned : (a :: rest).reverse ++ [below] = rest.reverse ++ [a, below] := by simp
    rw [eq] at ih
    obtain ⟨rfl, rfl⟩ := Prod.mk.inj ih
    rw [turned, raise_concat, if_neg stays, List.reverse_append]
    rfl

private theorem lower_eq_raise (picked : β → Bool) (stack : List β) :
    lower picked stack =
      ((raise picked stack.reverse).1.reverse, (raise picked stack.reverse).2) := by
  cases stack with
  | nil => rfl
  | cons a rest => rw [lower, lowerOnto_eq_raise, List.reverse_cons]

private theorem filter_lower {kind : β → Bool}
    (apart : ∀ a b, picked a = true → picked b = false → kind a = true → kind b = false)
    (stack : List β) : (lower picked stack).1.filter kind = stack.filter kind := by
  have turned := filter_raise apart stack.reverse
  rw [lower_eq_raise, List.filter_reverse, turned, List.filter_reverse, List.reverse_reverse]

private theorem map_lower_ne (changed : (lower picked stack).2 = true) :
    (lower picked stack).1.map picked ≠ stack.map picked := by
  rw [lower_eq_raise] at changed ⊢
  have ne := map_raise_ne changed
  intro same
  rw [List.map_reverse] at same
  exact ne (by rw [← List.reverse_reverse ((raise picked stack.reverse).1.map picked), same,
    List.map_reverse])

private theorem filter_toTop (picked : β → Bool) (stack : List β) :
    (toTop picked stack).filter picked = stack.filter picked := by
  simp [toTop, List.filter_filter]

private theorem filter_not_toTop (picked : β → Bool) (stack : List β) :
    ((toTop picked stack).filter fun a => !picked a) = stack.filter fun a => !picked a := by
  simp [toTop, List.filter_filter]

private theorem filter_toBottom (picked : β → Bool) (stack : List β) :
    (toBottom picked stack).filter picked = stack.filter picked := by
  simp [toBottom, List.filter_filter]

private theorem filter_not_toBottom (picked : β → Bool) (stack : List β) :
    ((toBottom picked stack).filter fun a => !picked a) = stack.filter fun a => !picked a := by
  simp [toBottom, List.filter_filter]

end Layers

namespace Scene

variable {α : Type} {s : Scene α} {keys : List Key} {key : Key} {place : Nat}

def reversed (s : Scene α) : Scene α := { s with elements := s.elements.reverse }

/-- What an operation on layers gives back: all elements as they are, those of the keys in their
order and the others in theirs, and whether the order is another than before. -/
structure Restacks (s : Scene α) (keys : List Key) (result : Bool × Scene α) : Prop where
  perm : result.2.elements.Perm s.elements
  refCounter : result.2.refCounter = s.refCounter
  chosen : result.2.elements.filter (hasKeyIn keys) = s.elements.filter (hasKeyIn keys)
  others : (result.2.elements.filter fun e => !hasKeyIn keys e) =
    s.elements.filter fun e => !hasKeyIn keys e
  reported : result.1 = true ↔ result.2.keys ≠ s.keys
  unchanged : result.1 = false → result.2 = s

private theorem indexOf?_of_getElem? {e : Element α} (nodup : s.keys.Nodup)
    (at_place : s.elements[place]? = some e) : s.indexOf? e.key = some place := by
  have here : s.keys[place]? = some e.key := by rw [keys, List.getElem?_map, at_place]; rfl
  obtain ⟨inside, key⟩ := List.getElem?_eq_some_iff.mp here
  rw [indexOf?_eq]
  refine List.findIdx?_eq_some_iff_getElem.mpr ⟨inside, by simpa using key, ?_⟩
  intro earlier before
  have short : earlier < s.keys.length := Nat.lt_trans before inside
  have apart : s.keys[earlier] ≠ s.keys[place] :=
    (List.Nodup.getElem_inj_iff nodup).not.mpr (Nat.ne_of_lt before)
  simpa [key] using apart

private theorem exists_of_indexOf? (found : s.indexOf? key = some place) :
    ∃ e, s.elements[place]? = some e ∧ e.key = key := by
  have here := key_of_indexOf? found
  rw [keys, List.getElem?_map] at here
  exact Option.map_eq_some_iff.mp here

private theorem keys_ne_of_map_hasKeyIn {elements : List (Element α)}
    (ne : elements.map (hasKeyIn keys) ≠ s.elements.map (hasKeyIn keys)) :
    elements.map Element.key ≠ s.keys := by
  intro same
  have seen (elements : List (Element α)) :
      elements.map (hasKeyIn keys) =
        (elements.map Element.key).map fun key => decide (key ∈ keys) := by
    rw [List.map_map]
    rfl
  exact ne (by rw [seen, seen, same, Scene.keys])

private theorem restacks_of_pass {elements : List (Element α)} {changed : Bool}
    (perm : elements.Perm s.elements)
    (keeps : ∀ kind : Element α → Bool,
      (∀ a b, hasKeyIn keys a = true → hasKeyIn keys b = false → kind a = true → kind b = false) →
        elements.filter kind = s.elements.filter kind)
    (moves : changed = true → elements.map (hasKeyIn keys) ≠ s.elements.map (hasKeyIn keys))
    (stays : changed = false → elements = s.elements) :
    s.Restacks keys (changed, { s with elements }) := by
  have same : changed = false → { s with elements } = s := by
    intro unchanged
    rw [stays unchanged]
  constructor
  case perm => exact perm
  case refCounter => rfl
  case chosen => exact keeps _ fun a b _ high _ => high
  case others =>
    refine keeps _ fun a b low _ other => ?_
    rw [low] at other
    cases other
  case reported =>
    constructor
    · exact fun changed => keys_ne_of_map_hasKeyIn (moves changed)
    · intro ne
      by_contra unchanged
      exact ne (congrArg Scene.keys (same (Bool.eq_false_iff.mpr unchanged)))
  case unchanged => exact same

private theorem restacks_moveUp (s : Scene α) (keys : List Key) : s.Restacks keys (s.moveUp keys) :=
  restacks_of_pass (Layers.raise_perm _ _) (fun _ apart => Layers.filter_raise apart _)
    Layers.map_raise_ne Layers.raise_of_unchanged

private theorem restacks_moveDown (s : Scene α) (keys : List Key) :
    s.Restacks keys (s.moveDown keys) :=
  restacks_of_pass (Layers.lower_perm _ _) (fun _ apart => Layers.filter_lower apart _)
    Layers.map_lower_ne Layers.lower_of_unchanged

private theorem restacks_bringToFront (s : Scene α) (keys : List Key) :
    s.Restacks keys (s.bringToFront keys) := by
  constructor
  case perm => exact Layers.toTop_perm _ _
  case refCounter => rfl
  case chosen => exact Layers.filter_toTop _ _
  case others => exact Layers.filter_not_toTop _ _
  case reported => exact decide_eq_true_iff
  case unchanged => exact bringToFront_of_unchanged

private theorem restacks_sendToBack (s : Scene α) (keys : List Key) :
    s.Restacks keys (s.sendToBack keys) := by
  constructor
  case perm => exact Layers.toBottom_perm _ _
  case refCounter => rfl
  case chosen => exact Layers.filter_toBottom _ _
  case others => exact Layers.filter_not_toBottom _ _
  case reported => exact decide_eq_true_iff
  case unchanged => exact sendToBack_of_unchanged

private theorem moveDown_eq (s : Scene α) (keys : List Key) :
    s.moveDown keys =
      ((s.reversed.moveUp keys).1, (s.reversed.moveUp keys).2.reversed) := by
  have turned := Layers.lower_eq_raise (hasKeyIn keys) s.elements
  unfold moveDown
  rw [turned]
  rfl

/-- A moved element is one place higher if an element of another key is above it, and else where it
was. -/
private theorem indexOf?_moveUp (nodup : s.keys.Nodup) (chosen : key ∈ keys)
    (found : s.indexOf? key = some place) :
    (s.moveUp keys).2.indexOf? key =
      some (if (s.elements.drop (place + 1)).all (hasKeyIn keys) then place else place + 1) := by
  obtain ⟨e, at_place, rfl⟩ := exists_of_indexOf? found
  have nodup' : (s.moveUp keys).2.keys.Nodup :=
    ((restacks_moveUp s keys).perm.map Element.key).nodup_iff.mpr nodup
  have picked : hasKeyIn keys e = true := decide_eq_true chosen
  have there := Layers.getElem?_raise at_place picked
  exact indexOf?_of_getElem? nodup' there

/-- Whatever the keys are, each operation on layers leaves the elements as they are and the counter
with them, keeps the elements of the keys in their order and all others in theirs, and says whether
the order has changed.  Moving up brings an element one place higher just if one of another key is
above it, and leaves it where it is if none is; moving down is the same from the other end; to the
front, or to the back, go the elements of the keys past all others. -/
theorem layers_keep_their_order (nodup : s.keys.Nodup) (keys : List Key) :
    (s.Restacks keys (s.moveUp keys) ∧
      ∀ key ∈ keys, ∀ place, s.indexOf? key = some place →
        ((s.moveUp keys).2.indexOf? key = some (place + 1) ↔
          ∃ e ∈ s.elements.drop (place + 1), e.key ∉ keys) ∧
        ((∀ e ∈ s.elements.drop (place + 1), e.key ∈ keys) →
          (s.moveUp keys).2.indexOf? key = some place)) ∧
    (s.Restacks keys (s.moveDown keys) ∧
      s.moveDown keys = ((s.reversed.moveUp keys).1, (s.reversed.moveUp keys).2.reversed)) ∧
    (s.Restacks keys (s.bringToFront keys) ∧
      (s.bringToFront keys).2.elements.Pairwise fun e above => e.key ∈ keys → above.key ∈ keys) ∧
    (s.Restacks keys (s.sendToBack keys) ∧
      (s.sendToBack keys).2.elements.Pairwise fun e above => above.key ∈ keys → e.key ∈ keys) := by
  refine ⟨⟨restacks_moveUp s keys, ?_⟩, ⟨restacks_moveDown s keys, moveDown_eq s keys⟩,
    ⟨restacks_bringToFront s keys, ?_⟩, ⟨restacks_sendToBack s keys, ?_⟩⟩
  · intro key chosen place found
    have moved := indexOf?_moveUp nodup chosen found
    by_cases all : ∀ e ∈ s.elements.drop (place + 1), e.key ∈ keys
    · have top : (s.elements.drop (place + 1)).all (hasKeyIn keys) = true := by
        simpa [hasKeyIn] using all
      rw [if_pos top] at moved
      have stays : ¬ ∃ e ∈ s.elements.drop (place + 1), e.key ∉ keys := by
        rintro ⟨e, above, other⟩
        exact other (all e above)
      exact ⟨by simp [moved, stays], fun _ => moved⟩
    · have other : ¬ (s.elements.drop (place + 1)).all (hasKeyIn keys) = true := by
        simpa [hasKeyIn] using all
      rw [if_neg other] at moved
      have rises : ∃ e ∈ s.elements.drop (place + 1), e.key ∉ keys := by
        simpa using all
      exact ⟨by simp [moved, rises], fun every => absurd every all⟩
  · have sorted := Layers.pairwise_toTop (hasKeyIn keys) s.elements
    exact sorted.imp fun goes chosen => of_decide_eq_true (goes (decide_eq_true chosen))
  · have sorted := Layers.pairwise_toTop (fun e => !hasKeyIn keys e) s.elements
    rw [← Layers.toBottom_eq_toTop] at sorted
    refine sorted.imp fun {e above} goes chosen => ?_
    by_contra other
    have apart := goes (by simpa [hasKeyIn] using other)
    simp [hasKeyIn, chosen] at apart

section Sample

def pile : Scene Float :=
  let shape (name : String) : Element Float :=
    ⟨⟨name⟩, ⟨0.0, 0.0, 64.0, 32.0⟩, none, .shape .rect "red" ""⟩
  ⟨[shape "ant", shape "bee", shape "cat", shape "doe"], 1⟩

/-- Two neighbours in the pile, one of them named twice, and one that is not there. -/
def pairOfPile : List Key := [⟨"cat"⟩, ⟨"elk"⟩, ⟨"bee"⟩, ⟨"cat"⟩]

theorem pair_rises_together :
    pile.keys.Nodup ∧ (pile.moveUp pairOfPile).2.indexOf? ⟨"bee"⟩ = some 2 ∧
      (pile.moveUp pairOfPile).2.indexOf? ⟨"cat"⟩ = some 3 ∧
      (pile.moveUp pairOfPile).2.keys ≠ pile.keys := by
  have nodup : pile.keys.Nodup := by decide
  obtain ⟨⟨restacks, places⟩, -⟩ := layers_keep_their_order nodup pairOfPile
  have bee := (places ⟨"bee"⟩ (by decide) 1 (by decide)).1.mpr
    ⟨_, List.mem_cons_of_mem _ List.mem_cons_self, by decide⟩
  have cat := (places ⟨"cat"⟩ (by decide) 2 (by decide)).1.mpr
    ⟨_, List.mem_cons_self, by decide⟩
  exact ⟨nodup, bee, cat, restacks.reported.mp (by decide)⟩

end Sample

end Scene

end PromptCanvas

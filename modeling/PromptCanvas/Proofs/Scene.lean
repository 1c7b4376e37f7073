import Mathlib.Data.List.Forall2
import PromptCanvas.Proofs.FirstOfKind
import PromptCanvas.Scene

set_option autoImplicit false
set_option relaxedAutoImplicit false

namespace PromptCanvas

theorem forall₂_trans {β γ δ : Type} {R : β → γ → Prop} {S : γ → δ → Prop} {T : β → δ → Prop}
    (compose : ∀ b c d, R b c → S c d → T b d) {bs : List β} {cs : List γ} {ds : List δ}
    (first : List.Forall₂ R bs cs) (second : List.Forall₂ S cs ds) : List.Forall₂ T bs ds := by
  induction first generalizing ds with
  | nil =>
    cases second
    exact .nil
  | cons here _ ih =>
    cases second with
    | cons there rest => exact .cons (compose _ _ _ here there) (ih rest)

namespace Scene

variable {α : Type} {elements : List (Element α)}

theorem keepsFirst_firstOfKeys :
    KeepsFirst Element.key (firstOfKeys : List (Element α) → List (Element α)) :=
  ⟨rfl, fun _ _ => rfl⟩

theorem elements_ofElements (elements : List (Element α)) (n : Nat) :
    (ofElements elements n).elements = firstOfKeys elements := rfl

theorem refAfter_of_lt {id : Nat} (room : id < Text.max32) : refAfter id = id + 1 :=
  Nat.mod_eq_of_lt (Nat.succ_lt_succ room)

private theorem refAfter_max32 : refAfter Text.max32 = 0 := Nat.mod_self _

private theorem refAfter_le (id : Nat) : refAfter id ≤ id + 1 := Nat.mod_le _ _

private theorem refAfter_le_max32 (id : Nat) : refAfter id ≤ Text.max32 :=
  Nat.le_of_lt_succ (Nat.mod_lt _ (Nat.succ_pos _))

theorem nextRefId_pos (s : Scene α) : 0 < s.nextRefId := Nat.le_max_right _ _

theorem max_refAfter_ne (s : Scene α) : max (refAfter s.nextRefId) 1 ≠ s.nextRefId := by
  have positive := s.nextRefId_pos
  have wide : 1 ≤ Text.max32 := by decide
  rcases Nat.lt_trichotomy s.nextRefId Text.max32 with room | last | beyond
  · rw [refAfter_of_lt room]
    omega
  · rw [last]
    decide
  · have small := refAfter_le_max32 s.nextRefId
    omega

/-- Reference ids below the last that there is, which has none behind it. -/
def BelowLast (s : Scene α) : Prop := ∀ e ∈ s.elements, ∀ id ∈ e.refId, id < Text.max32

theorem belowLast_ofElements (below : ∀ e ∈ elements, ∀ id ∈ e.refId, id < Text.max32) (n : Nat) :
    (ofElements elements n).BelowLast :=
  fun e mem => below e ((keepsFirst_firstOfKeys.sublist elements).subset mem)

private theorem highestRef_lt {n : Nat} (positive : 0 < n)
    (below : ∀ e ∈ elements, ∀ id ∈ e.refId, id < n) : highestRef elements < n := by
  suffices fromBelow : ∀ start, start < n →
      elements.foldl (fun highest e => max highest (e.refId.getD 0)) start < n from
    fromBelow 0 positive
  induction elements with
  | nil => exact fun _ lt => lt
  | cons e rest ih =>
    intro start lt
    have head : e.refId.getD 0 < n := by
      cases ref : e.refId with
      | none => exact positive
      | some id => exact below e List.mem_cons_self id ref
    refine ih (fun later mem => below later (List.mem_cons_of_mem e mem)) _ ?_
    exact Nat.max_lt.mpr ⟨lt, head⟩

theorem ofElements_eq {n : Nat} (nodup : (elements.map Element.key).Nodup) (positive : 0 < n)
    (below : ∀ e ∈ elements, ∀ id ∈ e.refId, id < n) : ofElements elements n = ⟨elements, n⟩ := by
  have highest := highestRef_lt positive below
  have after := refAfter_le (highestRef elements)
  rw [ofElements, keepsFirst_firstOfKeys.eq_self nodup]
  congr 1
  omega

private theorem le_highestRef {e : Element α} {id : Nat} (mem : e ∈ elements)
    (has : e.refId = some id) : id ≤ highestRef elements := by
  have grows : ∀ (elements : List (Element α)) (start : Nat),
      start ≤ elements.foldl (fun highest e => max highest (e.refId.getD 0)) start ∧
        ∀ e ∈ elements, e.refId.getD 0 ≤
          elements.foldl (fun highest e => max highest (e.refId.getD 0)) start := by
    intro elements
    induction elements with
    | nil =>
      intro start
      exact ⟨Nat.le_refl start, fun e mem => absurd mem List.not_mem_nil⟩
    | cons first rest ih =>
      intro start
      obtain ⟨start_le, rest_le⟩ := ih (max start (first.refId.getD 0))
      refine ⟨Nat.le_trans (Nat.le_max_left _ _) start_le, ?_⟩
      intro e mem
      rcases List.mem_cons.mp mem with rfl | later
      · exact Nat.le_trans (Nat.le_max_right _ _) start_le
      · exact rest_le e later
  have le := (grows elements 0).2 e mem
  rwa [has] at le

theorem keys_ofElements_nodup (elements : List (Element α)) (n : Nat) :
    (ofElements elements n).keys.Nodup :=
  keepsFirst_firstOfKeys.nodup elements

/-- The next reference id of a scene is above all that its elements have, if it has one behind. -/
theorem lt_nextRefId_ofElements {n id : Nat} {e : Element α}
    (room : (ofElements elements n).BelowLast) (mem : e ∈ (ofElements elements n).elements)
    (has : e.refId = some id) : id < (ofElements elements n).nextRefId := by
  have kept : e ∈ firstOfKeys elements := mem
  have le := le_highestRef kept has
  have highest : highestRef (firstOfKeys elements) < Text.max32 :=
    highestRef_lt (by decide) room
  simp only [nextRefId, ofElements, refAfter_of_lt highest]
  omega

theorem le_nextRefId_ofElements (elements : List (Element α)) (n : Nat) :
    n ≤ (ofElements elements n).nextRefId := by
  simp only [nextRefId, ofElements]
  omega

/-- What is above all reference ids of the elements, and no less than the counter, bounds the next
one. -/
theorem nextRefId_ofElements_le {n bound : Nat} (le : n ≤ bound) (positive : 0 < bound)
    (below : ∀ e ∈ elements, ∀ id ∈ e.refId, id < bound) :
    (ofElements elements n).nextRefId ≤ bound := by
  have highest := highestRef_lt positive fun e mem =>
    below e ((keepsFirst_firstOfKeys.sublist elements).subset mem)
  have after := refAfter_le (highestRef (firstOfKeys elements))
  simp only [nextRefId, ofElements]
  omega

theorem nextRefId_ofElements_le_max32 {n : Nat} (narrow : n ≤ Text.max32) :
    (ofElements elements n).nextRefId ≤ Text.max32 := by
  have after := refAfter_le_max32 (highestRef (firstOfKeys elements))
  have positive : 1 ≤ Text.max32 := by decide
  simp only [nextRefId, ofElements]
  omega

/-- The last reference id leaves the counter of a built scene as it was given, and ids that are
taken may be handed out again. -/
theorem nextRefId_ofElements_of_last {n : Nat} {e : Element α}
    (narrow : ∀ e ∈ elements, ∀ id ∈ e.refId, id ≤ Text.max32)
    (mem : e ∈ (ofElements elements n).elements) (last : e.refId = some Text.max32) :
    (ofElements elements n).nextRefId = max n 1 := by
  have kept : e ∈ firstOfKeys elements := mem
  have highest : highestRef (firstOfKeys elements) < Text.max32 + 1 :=
    highestRef_lt (Nat.succ_pos _) fun e mem id has =>
      Nat.lt_succ_of_le (narrow e ((keepsFirst_firstOfKeys.sublist elements).subset mem) id has)
  have top : highestRef (firstOfKeys elements) = Text.max32 :=
    Nat.le_antisymm (Nat.le_of_lt_succ highest) (le_highestRef kept last)
  simp only [nextRefId, ofElements, top, refAfter_max32]
  omega

example :
    let label (key : String) (id : Nat) : Element Nat :=
      ⟨⟨key⟩, ⟨0, 0, 1, 1⟩, some id, .shape .rect "" ""⟩
    (ofElements [label "fox" 1, label "owl" Text.max32] 0).nextRefId = 1 := by
  decide

theorem ofElements_ofElements (elements : List (Element α)) (n : Nat) :
    ofElements (ofElements elements n).elements (ofElements elements n).nextRefId =
      ofElements elements n := by
  have kept : firstOfKeys (firstOfKeys elements) = firstOfKeys elements :=
    keepsFirst_firstOfKeys.eq_self (keepsFirst_firstOfKeys.nodup elements)
  simp only [nextRefId, ofElements, kept]
  congr 1
  omega

theorem contains_iff {s : Scene α} {key : Key} : s.contains key = true ↔ key ∈ s.keys := by
  simp [contains, get?, keys]

theorem get?_of_mem {s : Scene α} {e : Element α} (nodup : s.keys.Nodup) (mem : e ∈ s.elements) :
    s.get? e.key = some e :=
  find?_of_nodup nodup mem

theorem key_of_get? {s : Scene α} {key : Key} {e : Element α} (found : s.get? key = some e) :
    e.key = key := by
  have same := List.find?_some (p := fun e : Element α => decide (e.key = key)) found
  exact of_decide_eq_true same

theorem isRunning_of_mem {s : Scene α} {e : Element α} (nodup : s.keys.Nodup)
    (mem : e ∈ s.elements) : s.isRunning e.key = e.isRunning := by
  rw [isRunning, get?_of_mem nodup mem]
  rfl

section Modify

variable {s : Scene α} {key other : Key} {change : Element α → Element α}

theorem get?_eq_none_iff : s.get? key = none ↔ s.contains key = false := by
  rw [contains, Option.isSome_eq_false_iff, Option.isNone_iff_eq_none]

private theorem find?_changeFirst (key : Key) (change : Element α → Element α)
    (elements : List (Element α)) :
    (changeFirst key change elements).find? (fun e => e.key = key) =
      (elements.find? fun e => e.key = key).map fun e => { change e with key } := by
  induction elements with
  | nil => rfl
  | cons e rest ih => by_cases here : e.key = key <;> simp [changeFirst, here, ih]

private theorem find?_changeFirst_of_ne (ne : other ≠ key) (change : Element α → Element α)
    (elements : List (Element α)) :
    (changeFirst key change elements).find? (fun e => e.key = other) =
      elements.find? fun e => e.key = other := by
  induction elements with
  | nil => rfl
  | cons e rest ih =>
    by_cases here : e.key = key
    · simp [changeFirst, here, ne.symm]
    · rw [changeFirst, if_neg here, List.find?_cons, List.find?_cons, ih]

theorem get?_modify (s : Scene α) (key : Key) (change : Element α → Element α) :
    (s.modify key change).get? key = (s.get? key).map fun e => { change e with key } :=
  find?_changeFirst key change s.elements

theorem get?_modify_of_ne (ne : other ≠ key) : (s.modify key change).get? other = s.get? other :=
  find?_changeFirst_of_ne ne change s.elements

/-- What relates each element to itself, and the changed one to what it was, relates the stack to
what it was. -/
theorem forall₂_changeFirst {R : Element α → Element α → Prop} (refl : ∀ e, R e e)
    (changed : ∀ e, elements.find? (fun e => e.key = key) = some e → R e { change e with key }) :
    List.Forall₂ R elements (changeFirst key change elements) := by
  induction elements with
  | nil => exact .nil
  | cons e rest ih =>
    by_cases here : e.key = key
    · rw [changeFirst, if_pos here]
      exact .cons (changed e (by simp [here])) (List.forall₂_same.mpr fun other _ => refl other)
    · rw [changeFirst, if_neg here]
      exact .cons (refl e) (ih fun later found => changed later (by simpa [here] using found))

theorem modify_congr {other : Element α → Element α} {e : Element α} (found : s.get? key = some e)
    (same : change e = other e) : s.modify key change = s.modify key other := by
  have agree : ∀ elements : List (Element α), elements.find? (fun e => e.key = key) = some e →
      changeFirst key change elements = changeFirst key other elements := by
    intro elements found
    induction elements with
    | nil => rfl
    | cons first rest ih =>
      by_cases here : first.key = key
      · have eq : first = e := by simpa [here] using found
        rw [changeFirst, changeFirst, if_pos here, if_pos here, eq, same]
      · have later : rest.find? (fun e => e.key = key) = some e := by simpa [here] using found
        rw [changeFirst, changeFirst, if_neg here, if_neg here, ih later]
  rw [modify, modify, agree s.elements found]

theorem modify_of_not_contains (absent : s.contains key = false) : s.modify key change = s := by
  have none : ∀ e ∈ s.elements, e.key ≠ key := by
    simpa [get?] using get?_eq_none_iff.mpr absent
  have same : ∀ elements : List (Element α), (∀ e ∈ elements, e.key ≠ key) →
      changeFirst key change elements = elements := by
    intro elements none
    induction elements with
    | nil => rfl
    | cons e rest ih =>
      obtain ⟨apart, none⟩ := List.forall_mem_cons.mp none
      rw [changeFirst, if_neg apart, ih none]
  rw [modify, same s.elements none]

theorem modify_modify {later : Element α → Element α} (s : Scene α)
    (hides : ∀ e, { later { change e with key } with key } = { later e with key }) :
    (s.modify key change).modify key later = s.modify key later := by
  have twice : ∀ elements : List (Element α),
      changeFirst key later (changeFirst key change elements) =
        changeFirst key later elements := by
    intro elements
    induction elements with
    | nil => rfl
    | cons e rest ih => by_cases here : e.key = key <;> simp [changeFirst, here, ih, hides]
  rw [modify, modify, modify, twice]

theorem modify_comm (s : Scene α) (ne : other ≠ key) (change change' : Element α → Element α) :
    (s.modify key change).modify other change' = (s.modify other change').modify key change := by
  have apart : ∀ elements : List (Element α),
      changeFirst other change' (changeFirst key change elements) =
        changeFirst key change (changeFirst other change' elements) := by
    intro elements
    induction elements with
    | nil => rfl
    | cons e rest ih =>
      by_cases here : e.key = key
      · simp [changeFirst, here, ne.symm]
      · by_cases there : e.key = other
        · simp [changeFirst, there, ne]
        · simp [changeFirst, here, there, ih]
  simp only [modify, apart]

private theorem map_key_changeFirst (key : Key) (change : Element α → Element α)
    (elements : List (Element α)) :
    (changeFirst key change elements).map Element.key = elements.map Element.key := by
  induction elements with
  | nil => rfl
  | cons e rest ih =>
    by_cases here : e.key = key
    · simp [changeFirst, here]
    · simp [changeFirst, here, ih]

theorem map_key_of_forall₂ {R : Element α → Element α → Prop} {later : List (Element α)}
    (same : ∀ e e', R e e' → e'.key = e.key) (related : List.Forall₂ R elements later) :
    later.map Element.key = elements.map Element.key := by
  induction related with
  | nil => rfl
  | cons first _ ih => rw [List.map_cons, List.map_cons, same _ _ first, ih]

theorem keys_modify (s : Scene α) (key : Key) (change : Element α → Element α) :
    (s.modify key change).keys = s.keys :=
  map_key_changeFirst key change s.elements

theorem indexOf?_eq (s : Scene α) (key : Key) :
    s.indexOf? key = s.keys.findIdx? fun k => k = key := by
  rw [indexOf?, keys, List.findIdx?_map]
  rfl

theorem indexOf?_modify (s : Scene α) (key other : Key) (change : Element α → Element α) :
    (s.modify key change).indexOf? other = s.indexOf? other := by
  rw [indexOf?_eq, indexOf?_eq, keys_modify]

theorem key_of_indexOf? {place : Nat} (found : s.indexOf? key = some place) :
    s.keys[place]? = some key := by
  rw [indexOf?_eq] at found
  obtain ⟨inside, here, -⟩ := List.findIdx?_eq_some_iff_getElem.mp found
  rw [List.getElem?_eq_getElem inside]
  exact congrArg some (of_decide_eq_true here)

theorem changeFirst_eq_set {elements : List (Element α)} {e : Element α}
    (change : Element α → Element α) (found : elements.find? (fun e => e.key = key) = some e) :
    ∃ place, elements.findIdx? (fun e => e.key = key) = some place ∧ elements[place]? = some e ∧
      changeFirst key change elements = elements.set place { change e with key } := by
  induction elements with
  | nil => cases found
  | cons first rest ih =>
    by_cases here : first.key = key
    · have same : first = e := by simpa [here] using found
      subst same
      exact ⟨0, by simp [List.findIdx?_cons, here], rfl, by simp [changeFirst, here]⟩
    · have later : rest.find? (fun e => e.key = key) = some e := by simpa [here] using found
      obtain ⟨place, index, at_place, set⟩ := ih later
      refine ⟨place + 1, ?_, at_place, ?_⟩
      · simp [List.findIdx?_cons, here, index]
      · simp [changeFirst, here, set]

private theorem changeFirst_eq_map {elements : List (Element α)} (change : Element α → Element α)
    (nodup : (elements.map Element.key).Nodup) :
    changeFirst key change elements =
      elements.map fun e => if e.key = key then { change e with key } else e := by
  induction elements with
  | nil => rfl
  | cons e rest ih =>
    obtain ⟨alone, nodup⟩ := List.nodup_cons.mp nodup
    by_cases here : e.key = key
    · have others :
          rest.map (fun e => if e.key = key then { change e with key } else e) = rest := by
        refine (List.map_congr_left fun other mem => if_neg fun same => ?_).trans
          (List.map_id rest)
        exact alone (List.mem_map.mpr ⟨other, mem, same.trans here.symm⟩)
      rw [changeFirst, if_pos here, List.map_cons, if_pos here, others]
    · rw [changeFirst, if_neg here, List.map_cons, if_neg here, ih nodup]

theorem elements_modify (nodup : s.keys.Nodup) (change : Element α → Element α) :
    (s.modify key change).elements =
      s.elements.map fun e => if e.key = key then { change e with key } else e :=
  changeFirst_eq_map change nodup

end Modify

theorem removeAll_of_size_le {s : Scene α} {keys : List Key}
    (size : s.size ≤ (s.removeAll keys).size) :
    s.removeAll keys = s := by
  have part : (s.removeAll keys).elements.Sublist s.elements := List.filter_sublist
  have same := part.eq_of_length_le size
  exact congrArg (fun elements => { s with elements }) same

end Scene

end PromptCanvas

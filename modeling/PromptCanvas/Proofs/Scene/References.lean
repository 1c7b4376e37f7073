import PromptCanvas.Proofs.Document.RoundTrip
import PromptCanvas.Proofs.Scene.Layers

/-!
Reference ids over the life of a scene.

An id and the key of its element make a mark.  An edit takes marks away, or adds one with the next
id, and the next id does not fall before all ids of 32 bits are spent.  So an id once taken away is
not there again, and one that is there has the element that it had first.
-/

set_option autoImplicit false
set_option relaxedAutoImplicit false

namespace PromptCanvas

variable {α : Type}

def Element.mark? (e : Element α) : Option (Nat × Key) := e.refId.map fun id => (id, e.key)

namespace Scene

/-- What is done to a scene in the course of its life. -/
inductive Edit (α : Type) where
  | insert (e : Element α)
  | remove (key : Key)
  | removeAll (keys : List Key)
  | update (key : Key) (change : Element α → Element α)
  | clear
  | moveUp (keys : List Key)
  | moveDown (keys : List Key)
  | bringToFront (keys : List Key)
  | sendToBack (keys : List Key)
  | ensureRefId (key : Key)
  | reload (catalog : Catalog)

/-- New elements come without a reference id, and changes leave it alone. -/
def Edit.LeavesRefs : Edit α → Prop
  | insert e => e.refId = none
  | update _ change => ∀ e, (change e).refId = e.refId
  | _ => True

/-- The scene after an edit; one that fails leaves it as it is. -/
def Edit.perform [Scalar α] (s : Scene α) : Edit α → Scene α
  | insert e => (s.insert e).toOption.getD s
  | remove key => ((s.remove key).toOption.map Prod.snd).getD s
  | removeAll keys => s.removeAll keys
  | update key change => (s.update key change).toOption.getD s
  | clear => s.clear
  | moveUp keys => (s.moveUp keys).2
  | moveDown keys => (s.moveDown keys).2
  | bringToFront keys => (s.bringToFront keys).2
  | sendToBack keys => (s.sendToBack keys).2
  | ensureRefId key => ((s.ensureRefId key).toOption.map Prod.snd).getD s
  | reload catalog => ((Document.ofScene s).restore catalog).scene

def edit [Scalar α] (s : Scene α) (edits : List (Edit α)) : Scene α := edits.foldl Edit.perform s

/-- The reference ids of the elements, from bottom to top. -/
def refIds (s : Scene α) : List Nat := s.elements.filterMap Element.refId

/-- A scene at the beginning: a new one, or one that was read, whose reference ids differ. -/
inductive Beginning [Scalar α] : Scene α → Prop
  | new : Beginning empty
  | restored (doc : Document α) (catalog : Catalog) :
      (doc.restore catalog).scene.refIds.Nodup → Beginning (doc.restore catalog).scene
  | read (stored : Json α) (catalog : Catalog) :
      (Document.restoreValue stored catalog).scene.refIds.Nodup →
        Beginning (Document.restoreValue stored catalog).scene

def marks (s : Scene α) : List (Nat × Key) := s.elements.filterMap Element.mark?

structure WellNumbered (s : Scene α) : Prop where
  nodup : (s.marks.map Prod.fst).Nodup
  below : ∀ mark ∈ s.marks, mark.1 < s.nextRefId

/-- A later scene has no marks but those of the earlier one, and new ones above them. -/
structure Follows (s s' : Scene α) : Prop where
  next : s.nextRefId ≤ s'.nextRefId
  marks : ∀ mark ∈ s'.marks, mark ∈ s.marks ∨ s.nextRefId ≤ mark.1

section Marks

variable {s s' s'' : Scene α} {id : Nat} {e : Element α} {key : Key}

private theorem refIds_eq (s : Scene α) : s.refIds = s.marks.map Prod.fst := by
  unfold refIds marks
  rw [List.map_filterMap]
  congr 1
  funext e
  cases has : e.refId <;> simp [Element.mark?, has]

private theorem mark_of_byRefId? (found : s.byRefId? id = some e) : (id, e.key) ∈ s.marks := by
  have has : e.refId = some id := by simpa using List.find?_some found
  refine List.mem_filterMap.mpr ⟨e, List.mem_of_find?_eq_some found, ?_⟩
  simp [Element.mark?, has]

private theorem byRefId?_eq_none_iff : s.byRefId? id = none ↔ id ∉ s.refIds := by
  simp [byRefId?, refIds]

private theorem exists_of_mem_marks (mem : (id, key) ∈ s.marks) : ∃ e, s.byRefId? id = some e := by
  have named : id ∈ s.refIds := by
    rw [refIds_eq]
    exact List.mem_map.mpr ⟨_, mem, rfl⟩
  exact Option.ne_none_iff_exists'.mp fun none => byRefId?_eq_none_iff.mp none named

namespace Follows

private theorem refl (s : Scene α) : Follows s s := ⟨Nat.le_refl _, fun _ mem => .inl mem⟩

private theorem trans (first : Follows s s') (second : Follows s' s'') : Follows s s'' := by
  refine ⟨Nat.le_trans first.next second.next, fun mark mem => ?_⟩
  rcases second.marks mark mem with old | new
  · exact first.marks mark old
  · exact .inr (Nat.le_trans first.next new)

end Follows

end Marks

/-- What one edit makes of the marks: some of them stay, or one with the next id is added. -/
inductive Marked (s s' : Scene α) : Prop
  | fewer {kept : List (Nat × Key)} (part : kept.Sublist s.marks) (marks : s'.marks.Perm kept)
      (next : s.nextRefId ≤ s'.nextRefId) (same : s.WellNumbered → s'.nextRefId = s.nextRefId)
  | added (key : Key) (marks : s'.marks.Perm ((s.nextRefId, key) :: s.marks))
      (next : s.nextRefId < Text.max32 → s'.nextRefId = s.nextRefId + 1)

namespace Marked

variable {s s' : Scene α}

private theorem of_sublist {elements : List (Element α)} (part : elements.Sublist s.elements) :
    Marked s { s with elements } :=
  .fewer (part.filterMap Element.mark?) (.refl _) (Nat.le_refl _) fun _ => rfl

private theorem of_perm {elements : List (Element α)} (same : elements.Perm s.elements) :
    Marked s { s with elements } :=
  .fewer (List.Sublist.refl _) (same.filterMap Element.mark?) (Nat.le_refl _) fun _ => rfl

private theorem refl (s : Scene α) : Marked s s := of_perm (.refl s.elements)

private theorem nodup (h : Marked s s') (numbered : s.WellNumbered) :
    (s'.marks.map Prod.fst).Nodup := by
  cases h with
  | fewer part marks next same =>
    exact (marks.map Prod.fst).nodup_iff.mpr (numbered.nodup.sublist (part.map Prod.fst))
  | added key marks next =>
    refine ((marks.map Prod.fst).nodup_iff).mpr ?_
    rw [List.map_cons, List.nodup_cons]
    refine ⟨fun mem => ?_, numbered.nodup⟩
    obtain ⟨mark, old, same⟩ := List.mem_map.mp mem
    have below := numbered.below mark old
    omega

private theorem follows (h : Marked s s') (room : ∀ mark ∈ s'.marks, mark.1 < Text.max32) :
    Follows s s' := by
  cases h with
  | fewer part marks next same =>
    exact ⟨next, fun mark mem => .inl (part.subset (marks.subset mem))⟩
  | added key marks next =>
    have counts := next (room _ (marks.symm.subset List.mem_cons_self))
    refine ⟨by omega, fun mark mem => ?_⟩
    rcases List.mem_cons.mp (marks.subset mem) with rfl | old
    · exact .inr (Nat.le_refl _)
    · exact .inl old

private theorem wellNumbered (h : Marked s s') (room : ∀ mark ∈ s'.marks, mark.1 < Text.max32)
    (numbered : s.WellNumbered) : s'.WellNumbered := by
  refine ⟨h.nodup numbered, fun mark mem => ?_⟩
  cases h with
  | fewer part marks next same =>
    have below := numbered.below mark (part.subset (marks.subset mem))
    omega
  | added key marks next =>
    have counts := next (room _ (marks.symm.subset List.mem_cons_self))
    rcases List.mem_cons.mp (marks.subset mem) with rfl | old
    · omega
    · have below := numbered.below mark old
      omega

/-- Before the last id is the next, an edit leaves all ids below the last, and spends one at
most. -/
private theorem spends_one (h : Marked s s') (numbered : s.WellNumbered)
    (room : s.nextRefId < Text.max32) :
    (∀ mark ∈ s'.marks, mark.1 < Text.max32) ∧ s'.nextRefId ≤ s.nextRefId + 1 := by
  cases h with
  | fewer part marks next same =>
    rw [same numbered]
    refine ⟨fun mark mem => ?_, Nat.le_succ _⟩
    exact Nat.lt_trans (numbered.below mark (part.subset (marks.subset mem))) room
  | added key marks next =>
    refine ⟨fun mark mem => ?_, Nat.le_of_eq (next room)⟩
    rcases List.mem_cons.mp (marks.subset mem) with rfl | old
    · exact room
    · exact Nat.lt_trans (numbered.below mark old) room

end Marked

section Edits

variable {s : Scene α} {key : Key} {e : Element α}

private theorem marked_insert (unnamed : e.refId = none) :
    Marked s ((s.insert e).toOption.getD s) := by
  unfold insert
  split
  · exact .refl s
  · have same : (s.elements ++ [e]).filterMap Element.mark? = s.marks := by
      simp [List.filterMap_append, Element.mark?, unnamed, marks]
    exact .fewer (List.Sublist.refl _) (.of_eq same) (Nat.le_refl _) fun _ => rfl

private theorem marked_remove (s : Scene α) (key : Key) :
    Marked s (((s.remove key).toOption.map Prod.snd).getD s) := by
  unfold remove
  cases s.get? key with
  | none => exact .refl s
  | some e => exact .of_sublist List.eraseP_sublist

private theorem filterMap_mark?_changeFirst {change : Element α → Element α} (key : Key)
    (keeps : ∀ e, (change e).refId = e.refId) (elements : List (Element α)) :
    (changeFirst key change elements).filterMap Element.mark? =
      elements.filterMap Element.mark? := by
  induction elements with
  | nil => rfl
  | cons e rest ih =>
    by_cases here : e.key = key
    · subst here
      have same : Element.mark? { change e with key := e.key } = e.mark? := by
        simp [Element.mark?, keeps]
      simp [changeFirst, List.filterMap_cons, same]
    · simp [changeFirst, here, List.filterMap_cons, ih]

private theorem marked_update {change : Element α → Element α}
    (keeps : ∀ e, (change e).refId = e.refId) :
    Marked s ((s.update key change).toOption.getD s) := by
  unfold update
  split
  · have same := filterMap_mark?_changeFirst key keeps s.elements
    exact .fewer (List.Sublist.refl _) (.of_eq same) (Nat.le_refl _) fun _ => rfl
  · exact .refl s

private theorem filterMap_mark?_setRef {elements : List (Element α)} (id : Nat)
    (found : elements.find? (fun e => e.key = key) = some e) (unnamed : e.refId = none) :
    ((changeFirst key (fun e => { e with refId := some id }) elements).filterMap
        Element.mark?).Perm ((id, key) :: elements.filterMap Element.mark?) := by
  induction elements with
  | nil => cases found
  | cons first rest ih =>
    by_cases here : first.key = key
    · have same : first = e := by simpa [here] using found
      subst same
      simp [changeFirst, here, Element.mark?, unnamed]
    · have later : rest.find? (fun e => e.key = key) = some e := by simpa [here] using found
      have moved := ih later
      rw [changeFirst, if_neg here]
      cases mark : first.mark? with
      | none => simpa [List.filterMap_cons, mark] using moved
      | some own =>
        simp only [List.filterMap_cons, mark]
        exact (moved.cons own).trans (List.Perm.swap _ _ _)

private theorem marks_ofElements_sublist (elements : List (Element α)) (n : Nat) :
    (ofElements elements n).marks.Sublist (elements.filterMap Element.mark?) :=
  (keepsFirst_firstOfKeys.sublist elements).filterMap Element.mark?

private theorem ensureRefId_of_unnamed (found : s.get? key = some e) (unnamed : e.refId = none) :
    s.ensureRefId key = .ok (s.nextRefId,
      { s.modify key (fun e => { e with refId := some s.nextRefId }) with
        refCounter := refAfter s.nextRefId }) := by
  unfold ensureRefId
  rw [found]
  simp only [unnamed]

private theorem mem_marks_of_ensureRefId (found : s.get? key = some e) (unnamed : e.refId = none) :
    (s.nextRefId, key) ∈ (((s.ensureRefId key).toOption.map Prod.snd).getD s).marks := by
  rw [ensureRefId_of_unnamed found unnamed]
  exact (filterMap_mark?_setRef s.nextRefId found unnamed).symm.subset List.mem_cons_self

private theorem marked_ensureRefId (s : Scene α) (key : Key) :
    Marked s (((s.ensureRefId key).toOption.map Prod.snd).getD s) := by
  cases found : s.get? key with
  | none =>
    unfold ensureRefId
    rw [found]
    exact .refl s
  | some e =>
    cases named : e.refId with
    | some id =>
      unfold ensureRefId
      rw [found]
      simp only [named]
      exact .refl s
    | none =>
      rw [ensureRefId_of_unnamed found named]
      refine .added key (filterMap_mark?_setRef s.nextRefId found named) fun room => ?_
      rw [nextRefId, refAfter_of_lt room]
      exact Nat.max_eq_left (Nat.le_add_left 1 _)

variable [Scalar α]

private theorem mark?_restoreElement {catalog : Catalog} {saved : SavedElement α}
    (back : Document.restoreElement catalog saved = some e) : e.mark? = saved.element.mark? := by
  obtain ⟨content, -, rfl⟩ := Option.map_eq_some_iff.mp back
  rfl

private theorem filterMap_mark?_restored (catalog : Catalog) (saved : List (SavedElement α)) :
    ((saved.filterMap (Document.restoreElement catalog)).filterMap Element.mark?).Sublist
      ((saved.map SavedElement.element).filterMap Element.mark?) := by
  induction saved with
  | nil => exact .slnil
  | cons first rest ih =>
    have behind : ((rest.map SavedElement.element).filterMap Element.mark?).Sublist
        (((first :: rest).map SavedElement.element).filterMap Element.mark?) :=
      (List.sublist_cons_self _ _).filterMap _
    cases back : Document.restoreElement catalog first with
    | none =>
      rw [List.filterMap_cons_none back]
      exact ih.trans behind
    | some e =>
      have same := mark?_restoreElement back
      rw [List.filterMap_cons_some back]
      cases mark : e.mark? with
      | none =>
        rw [List.filterMap_cons_none mark]
        exact ih.trans behind
      | some own =>
        rw [List.filterMap_cons_some mark, List.map_cons,
          List.filterMap_cons_some (same.symm.trans mark)]
        exact ih.cons_cons own

private theorem reload_eq (s : Scene α) (catalog : Catalog) :
    (Edit.reload catalog).perform s =
      ofElements ((Document.numbered (Document.written s)).filterMap
        (Document.restoreElement catalog)) s.nextRefId :=
  Document.scene_restore_ofScene s catalog

private theorem marked_reload (s : Scene α) (catalog : Catalog) :
    Marked s ((Edit.reload catalog).perform s) := by
  have written : ((Document.numbered (Document.written s)).map SavedElement.element).filterMap
      Element.mark? = (Document.written s).filterMap Element.mark? := by
    rw [Document.numbered_element, List.filterMap_map]
    rfl
  have back := filterMap_mark?_restored catalog (Document.numbered (Document.written s))
  rw [written] at back
  have part : ((Document.written s).filterMap Element.mark?).Sublist s.marks :=
    (Document.written_sublist s).filterMap _
  rw [reload_eq]
  refine .fewer ((marks_ofElements_sublist _ _).trans (back.trans part)) (.refl _)
    (le_nextRefId_ofElements _ s.nextRefId) fun numbered => ?_
  refine Nat.le_antisymm (nextRefId_ofElements_le (Nat.le_refl _) s.nextRefId_pos ?_)
    (le_nextRefId_ofElements _ _)
  intro e mem id has
  have mark : e.mark? = some (id, e.key) := by simp [Element.mark?, Option.mem_def.mp has]
  have old : (id, e.key) ∈ s.marks :=
    part.subset (back.subset (List.mem_filterMap.mpr ⟨e, mem, mark⟩))
  exact numbered.below _ old

private theorem Edit.marked (s : Scene α) {edit : Edit α} (leaves : edit.LeavesRefs) :
    Marked s (edit.perform s) := by
  cases edit with
  | insert e => exact marked_insert leaves
  | remove key => exact marked_remove s key
  | removeAll keys => exact .of_sublist List.filter_sublist
  | update key change => exact marked_update leaves
  | clear => exact .of_sublist (List.nil_sublist _)
  | moveUp keys => exact .of_perm (Layers.raise_perm _ _)
  | moveDown keys => exact .of_perm (Layers.lower_perm _ _)
  | bringToFront keys => exact .of_perm (Layers.toTop_perm _ _)
  | sendToBack keys => exact .of_perm (Layers.toBottom_perm _ _)
  | ensureRefId key => exact marked_ensureRefId s key
  | reload catalog => exact marked_reload s catalog

end Edits

section Runs

variable [Scalar α] {s : Scene α} {edits : List (Edit α)}

omit [Scalar α] in
private theorem belowLast_iff : s.BelowLast ↔ ∀ mark ∈ s.marks, mark.1 < Text.max32 := by
  constructor
  · intro below mark mem
    obtain ⟨e, inside, eq⟩ := List.mem_filterMap.mp mem
    obtain ⟨id, has, rfl⟩ := Option.map_eq_some_iff.mp eq
    exact below e inside id has
  · intro below e mem id has
    refine below (id, e.key) (List.mem_filterMap.mpr ⟨e, mem, ?_⟩)
    simp [Element.mark?, Option.mem_def.mp has]

private theorem belowLast_behind {edit : Edit α}
    (room : ∀ run, run <+: edit :: edits → (s.edit run).BelowLast) :
    ∀ run, run <+: edits → ((edit.perform s).edit run).BelowLast :=
  fun run part => room (edit :: run) (List.cons_prefix_cons.mpr ⟨rfl, part⟩)

private theorem wellNumbered_edit (leaves : ∀ edit ∈ edits, edit.LeavesRefs)
    (room : ∀ run, run <+: edits → (s.edit run).BelowLast) (h : s.WellNumbered) :
    (s.edit edits).WellNumbered := by
  induction edits generalizing s with
  | nil => exact h
  | cons first rest ih =>
    obtain ⟨now, later⟩ := List.forall_mem_cons.mp leaves
    have behind := belowLast_behind room
    have here := belowLast_iff.mp (behind [] List.nil_prefix)
    exact ih later behind ((Edit.marked s now).wellNumbered here h)

private theorem follows_edit (s : Scene α) (leaves : ∀ edit ∈ edits, edit.LeavesRefs)
    (room : ∀ run, run <+: edits → (s.edit run).BelowLast) : Follows s (s.edit edits) := by
  induction edits generalizing s with
  | nil => exact .refl s
  | cons first rest ih =>
    obtain ⟨now, later⟩ := List.forall_mem_cons.mp leaves
    have behind := belowLast_behind room
    have here := belowLast_iff.mp (behind [] List.nil_prefix)
    exact ((Edit.marked s now).follows here).trans (ih (first.perform s) later behind)

private theorem belowLast_edit (leaves : ∀ edit ∈ edits, edit.LeavesRefs)
    (numbered : s.WellNumbered) (few : s.nextRefId + edits.length ≤ Text.max32) :
    ∀ run, run <+: edits → (s.edit run).BelowLast := by
  have here : s.BelowLast := belowLast_iff.mpr fun mark mem => by
    have below := numbered.below mark mem
    omega
  induction edits generalizing s with
  | nil =>
    intro run part
    rw [List.prefix_nil.mp part]
    exact here
  | cons first rest ih =>
    rw [List.length_cons] at few
    obtain ⟨now, later⟩ := List.forall_mem_cons.mp leaves
    obtain ⟨room, next⟩ := (Edit.marked s now).spends_one numbered (by omega)
    have behind := ih later ((Edit.marked s now).wellNumbered room numbered) (by omega)
      (belowLast_iff.mpr room)
    intro run part
    cases run with
    | nil => exact here
    | cons edit run =>
      obtain ⟨rfl, tail⟩ := List.cons_prefix_cons.mp part
      exact behind run tail

omit [Scalar α] in
private theorem wellNumbered_ofElements {elements : List (Element α)} {n : Nat}
    (nodup : (ofElements elements n).refIds.Nodup) (room : (ofElements elements n).BelowLast) :
    (ofElements elements n).WellNumbered := by
  rw [refIds_eq] at nodup
  refine ⟨nodup, fun mark mem => ?_⟩
  obtain ⟨e, inside, eq⟩ := List.mem_filterMap.mp mem
  obtain ⟨id, has, rfl⟩ := Option.map_eq_some_iff.mp eq
  exact lt_nextRefId_ofElements room inside has

private theorem wellNumbered_restored {doc : Document α} {catalog : Catalog}
    (nodup : (doc.restore catalog).scene.refIds.Nodup)
    (room : (doc.restore catalog).scene.BelowLast) :
    (doc.restore catalog).scene.WellNumbered := by
  unfold Document.restore at nodup room ⊢
  split at nodup
  · next current =>
    rw [if_pos current] at room ⊢
    exact wellNumbered_ofElements nodup room
  · next other =>
    rw [if_neg other] at room ⊢
    exact wellNumbered_ofElements nodup room

theorem exists_restore_eq (stored : Json α) (catalog : Catalog) :
    ∃ doc : Document α, Document.restoreValue stored catalog = doc.restore catalog := by
  have rebuilt : ∃ doc : Document α, Document.rebuild catalog = doc.restore catalog :=
    ⟨⟨0, [], .none, 0⟩, rfl⟩
  unfold Document.restoreValue
  split
  · cases Document.ofJson? stored with
    | none => exact rebuilt
    | some doc => exact ⟨doc, rfl⟩
  · exact rebuilt

private theorem Beginning.wellNumbered (h : Beginning s) (room : s.BelowLast) : s.WellNumbered := by
  cases h with
  | new => exact ⟨List.nodup_nil, fun mark mem => absurd mem List.not_mem_nil⟩
  | restored doc catalog nodup => exact wellNumbered_restored nodup room
  | read stored catalog nodup =>
    obtain ⟨doc, eq⟩ := exists_restore_eq stored catalog
    rw [eq] at nodup room ⊢
    exact wellNumbered_restored nodup room

end Runs

section History

variable {s past now : Scene α} {id : Nat} {e e' : Element α} {key key' : Key}

private theorem key_of_mem_marks (nodup : (s.marks.map Prod.fst).Nodup)
    (first : (id, key) ∈ s.marks) (second : (id, key') ∈ s.marks) : key = key' := by
  have same := List.inj_on_of_nodup_map nodup first second rfl
  exact (Prod.mk.inj same).2

private theorem Follows.mark_mem (h : Follows past now) (below : id < past.nextRefId)
    (later : (id, key) ∈ now.marks) : (id, key) ∈ past.marks := by
  rcases h.marks _ later with old | new
  · exact old
  · exact absurd below (Nat.not_lt.mpr new)

private theorem Follows.key_eq (h : Follows past now) (numbered : past.WellNumbered)
    (before : past.byRefId? id = some e) (after : now.byRefId? id = some e') : e'.key = e.key := by
  have first := mark_of_byRefId? before
  have kept := h.mark_mem (numbered.below _ first) (mark_of_byRefId? after)
  exact key_of_mem_marks numbered.nodup kept first

private theorem Follows.byRefId?_eq_none (h : Follows past now) (below : id < past.nextRefId)
    (gone : past.byRefId? id = none) : now.byRefId? id = none := by
  cases found : now.byRefId? id with
  | none => rfl
  | some e =>
    obtain ⟨old, there⟩ := exists_of_mem_marks (h.mark_mem below (mark_of_byRefId? found))
    cases gone.symm.trans there

private theorem WellNumbered.ensureRefId (numbered : s.WellNumbered) (found : s.get? key = some e)
    (unnamed : e.refId = none) :
    ∃ next, s.ensureRefId key = .ok (s.nextRefId, next) ∧
      ∃ e', next.byRefId? s.nextRefId = some e' ∧ e'.key = key := by
  have nodup := (marked_ensureRefId s key).nodup numbered
  have mark := mem_marks_of_ensureRefId found unnamed
  rw [ensureRefId_of_unnamed found unnamed] at nodup mark
  refine ⟨_, ensureRefId_of_unnamed found unnamed, ?_⟩
  obtain ⟨e', found'⟩ := exists_of_mem_marks mark
  exact ⟨e', found', key_of_mem_marks nodup (mark_of_byRefId? found') mark⟩

variable [Scalar α]

/-- Through all edits, as long as ids stay below the last of 32 bits, elements have different ids
below the next one.  A new id is above all that were there before, an id stays with its element,
and one that is gone does not come back. -/
theorem reference_ids_never_reused {s : Scene α} (start : Beginning s)
    (earlier later : List (Edit α)) (leaves : ∀ edit ∈ earlier ++ later, edit.LeavesRefs)
    (room : ∀ run, run <+: earlier ++ later → (s.edit run).BelowLast) :
    let past := s.edit earlier
    let now := past.edit later
    (now.refIds.Nodup ∧ ∀ id ∈ now.refIds, id < now.nextRefId) ∧
    (∀ key e, now.get? key = some e → e.refId = none →
      ∃ id next, now.ensureRefId key = .ok (id, next) ∧ 1 ≤ id ∧ (∀ old ∈ past.refIds, old < id) ∧
        ∃ e', next.byRefId? id = some e' ∧ e'.key = key) ∧
    (∀ id e e', past.byRefId? id = some e → now.byRefId? id = some e' → e'.key = e.key) ∧
    ∀ id, id < past.nextRefId → past.byRefId? id = none → now.byRefId? id = none := by
  intro past now
  obtain ⟨leaves, leaves'⟩ := List.forall_mem_append.mp leaves
  have before : ∀ run, run <+: earlier → (s.edit run).BelowLast :=
    fun run part => room run (part.trans (List.prefix_append _ _))
  have since : ∀ run, run <+: later → (past.edit run).BelowLast := by
    intro run part
    have whole := room (earlier ++ run) ((List.prefix_append_right_inj earlier).mpr part)
    rwa [edit, List.foldl_append] at whole
  have numbered : past.WellNumbered :=
    wellNumbered_edit leaves before (start.wellNumbered (before [] List.nil_prefix))
  have numbered' : now.WellNumbered := wellNumbered_edit leaves' since numbered
  have follows : Follows past now := follows_edit past leaves' since
  have below : ∀ s : Scene α, s.WellNumbered → ∀ id ∈ s.refIds, id < s.nextRefId := by
    intro s numbered id mem
    rw [refIds_eq] at mem
    obtain ⟨mark, inside, rfl⟩ := List.mem_map.mp mem
    exact numbered.below mark inside
  refine ⟨⟨?_, below now numbered'⟩, ?_, ?_, ?_⟩
  · rw [refIds_eq]
    exact numbered'.nodup
  · intro key e found unnamed
    obtain ⟨next, given, there⟩ := numbered'.ensureRefId found unnamed
    refine ⟨now.nextRefId, next, given, Nat.le_max_right _ _, ?_, there⟩
    intro old mem
    exact Nat.lt_of_lt_of_le (below past numbered old mem) follows.next
  · intro id e e' before after
    exact follows.key_eq numbered before after
  · intro id small gone
    exact follows.byRefId?_eq_none small gone

/-- A fox is put down and gets an id; then it is saved and read back, and an owl takes its
place. -/
def foxThenOwl : List (Edit Float) × List (Edit Float) :=
  let put (name : String) : Edit Float :=
    .insert ⟨⟨name⟩, ⟨8.0, 8.0, 64.0, 32.0⟩, none, .image (Image.placeholder name)⟩
  ([put "fox", .ensureRefId ⟨"fox"⟩], [.reload ⟨[]⟩, .remove ⟨"fox"⟩, put "owl"])

theorem owl_gets_another_id :
    let past := empty.edit foxThenOwl.1
    let now := past.edit foxThenOwl.2
    (∀ edit ∈ foxThenOwl.1 ++ foxThenOwl.2, edit.LeavesRefs) ∧
      (∀ run, run <+: foxThenOwl.1 ++ foxThenOwl.2 → (empty.edit run).BelowLast) ∧
      past.refIds = [1] ∧ now.byRefId? 1 = none ∧
      ∃ id next, now.ensureRefId ⟨"owl"⟩ = .ok (id, next) ∧ 1 < id := by
  intro past now
  have leaves : ∀ edit ∈ foxThenOwl.1 ++ foxThenOwl.2, edit.LeavesRefs := by
    simp [foxThenOwl, Edit.LeavesRefs]
  have room : ∀ run, run <+: foxThenOwl.1 ++ foxThenOwl.2 → (empty.edit run).BelowLast :=
    belowLast_edit leaves (Beginning.new.wellNumbered (List.forall_mem_nil _)) (by decide)
  obtain ⟨-, fresh, -, -⟩ := reference_ids_never_reused .new foxThenOwl.1 foxThenOwl.2 leaves room
  have named : past.refIds = [1] := by decide
  have elements : now.elements =
      [⟨⟨"owl"⟩, ⟨8.0, 8.0, 64.0, 32.0⟩, none, .image (Image.placeholder "owl")⟩] := by
    change (foxThenOwl.2.tail.foldl Edit.perform ((Edit.reload ⟨[]⟩).perform past)).elements = _
    rw [reload_eq]
    decide
  refine ⟨leaves, room, named, by rw [byRefId?, elements]; rfl, ?_⟩
  obtain ⟨e, found, unnamed⟩ : ∃ e, now.get? ⟨"owl"⟩ = some e ∧ e.refId = none := by
    rw [get?, elements]
    exact ⟨_, rfl, rfl⟩
  obtain ⟨id, next, given, -, above, -⟩ := fresh ⟨"owl"⟩ e found unnamed
  refine ⟨id, next, given, above 1 ?_⟩
  rw [named]
  exact List.mem_cons_self

end History

end Scene

end PromptCanvas

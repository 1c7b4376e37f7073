import Mathlib.Data.List.Induction
import Mathlib.Data.List.Perm.Basic
import PromptCanvas.Canvas
import PromptCanvas.Proofs.Scene
import PromptCanvas.Proofs.Scene.Layers

/-!
What a user does to a canvas touches no content.

An event gives elements other boxes, or another order, or takes the selected ones out.  Which of
these it does is seen from the event alone, whatever gesture is under way and whatever is left of
the elements that it began with.
-/

set_option autoImplicit false
set_option relaxedAutoImplicit false

namespace PromptCanvas

/-- The same element in a box of its own; its sides are other ones only if it is resized. -/
structure Element.Reboxed {α : Type} (Resized : Key → Prop) (e e' : Element α) : Prop where
  key : e'.key = e.key
  content : e'.content = e.content
  refId : e'.refId = e.refId
  sides : Resized e.key ∨ e'.rect.w = e.rect.w ∧ e'.rect.h = e.rect.h

namespace Element

variable {α : Type} {Resized Resized' Either : Key → Prop} {e e' e'' : Element α}

private theorem reboxed_refl (Resized : Key → Prop) (e : Element α) : e.Reboxed Resized e :=
  ⟨rfl, rfl, rfl, .inr ⟨rfl, rfl⟩⟩

private theorem Reboxed.trans (first : e.Reboxed Resized e') (second : e'.Reboxed Resized' e'')
    (either : ∀ key, Resized key ∨ Resized' key → Either key) : e.Reboxed Either e'' := by
  refine ⟨second.key.trans first.key, second.content.trans first.content,
    second.refId.trans first.refId, ?_⟩
  rcases first.sides with resized | ⟨w, h⟩
  · exact .inl (either _ (.inl resized))
  · rcases second.sides with resized | ⟨w', h'⟩
    · exact .inl (either _ (.inr (first.key ▸ resized)))
    · exact .inr ⟨w'.trans w, h'.trans h⟩

private theorem Reboxed.mono (reboxed : e.Reboxed Resized e')
    (weaker : ∀ key, Resized key → Resized' key) : e.Reboxed Resized' e' :=
  reboxed.trans (e'.reboxed_refl Resized') fun key either => either.elim (weaker key) id

end Element

namespace Canvas

section Events

variable {α : Type} (c : Canvas α) (event : InputEvent α) (key : Key)

/-- The event takes the element of a key out, if it is there. -/
def Deletes : Prop := event = .command .deleteSelected ∧ key ∈ c.selection.keys

/-- The event moves the pointer while the element of a key is resized. -/
def Resizes : Prop :=
  ∃ p modifiers session, event = .pointer .move p modifiers ∧ c.gesture = .resizing session ∧
    session.key = key

end Events

/-- The event is one of the commands that change the order of the stack. -/
def Restacks {α : Type} (event : InputEvent α) : Prop :=
  event ∈ [.command .moveUp, .command .moveDown, .command .bringToFront, .command .sendToBack]

private theorem not_deletes_of_restacks {α : Type} {event : InputEvent α}
    (shortcut : Restacks event) : event ≠ .command .deleteSelected := by
  rintro rfl
  simp [Restacks] at shortcut

variable {α : Type} [Scalar α]

inductive Alters (c : Canvas α) (event : InputEvent α) (c' : Canvas α) : Prop
  | reboxed (spared : event ≠ .command .deleteSelected)
      (counter : c'.scene.refCounter = c.scene.refCounter)
      (elements : List.Forall₂ (Element.Reboxed (c.Resizes event)) c.scene.elements
        c'.scene.elements)
  | restacked {elements : List (Element α)} (shortcut : Restacks event)
      (scene : c'.scene = { c.scene with elements }) (same : elements.Perm c.scene.elements)
  | deleted (shortcut : event = .command .deleteSelected)
      (scene : c'.scene = c.scene.removeAll c.selection.keys)

def play (c : Canvas α) (events : List (InputEvent α)) : Canvas α :=
  events.foldl (fun c event => (c.handle event).2) c

section Step

variable (c : Canvas α) (event : InputEvent α)

omit [Scalar α] in
private theorem alters_of_eq {c c' : Canvas α} {event : InputEvent α}
    (spared : event ≠ .command .deleteSelected) (same : c'.scene = c.scene) :
    c.Alters event c' := by
  refine .reboxed spared (congrArg Scene.refCounter same) ?_
  rw [same]
  exact List.forall₂_same.mpr fun e _ => e.reboxed_refl _

omit [Scalar α] in
private theorem reboxed_modify {Resized : Key → Prop} (s : Scene α) {key : Key}
    {change : Element α → Element α}
    (reboxed : ∀ e : Element α, e.key = key → e.Reboxed Resized { change e with key }) :
    List.Forall₂ (Element.Reboxed Resized) s.elements (s.modify key change).elements :=
  Scene.forall₂_changeFirst (fun e => e.reboxed_refl Resized) fun e found =>
    reboxed e (by simpa using List.find?_some found)

private theorem reboxed_shiftAll (Resized : Key → Prop) (s : Scene α)
    (origins : List (Key × Point α)) (delta : Point α) :
    List.Forall₂ (Element.Reboxed Resized) s.elements (shiftAll s origins delta).elements := by
  induction origins generalizing s with
  | nil => exact List.forall₂_same.mpr fun e _ => e.reboxed_refl Resized
  | cons origin rest ih =>
    let moved (e : Element α) := e.movedTo (origin.2.add delta)
    have first : List.Forall₂ (Element.Reboxed Resized) s.elements
        (s.modify origin.1 moved).elements :=
      reboxed_modify s fun e here => ⟨here.symm, rfl, rfl, .inr ⟨rfl, rfl⟩⟩
    exact forall₂_trans (fun _ _ _ here there => here.trans there fun _ => or_self_iff.mp)
      first (ih _)

private theorem refCounter_shiftAll (s : Scene α) (origins : List (Key × Point α))
    (delta : Point α) : (shiftAll s origins delta).refCounter = s.refCounter := by
  induction origins generalizing s with
  | nil => rfl
  | cons origin rest ih => exact ih _

private theorem alters_press (p : Point α) (modifiers : Modifiers) :
    c.Alters (.pointer .down p modifiers) (c.press p modifiers).2 := by
  refine alters_of_eq nofun ?_
  unfold press
  split
  · rfl
  · split
    · split <;> rfl
    · rfl
    · rfl

private theorem alters_move (p : Point α) (modifiers : Modifiers) :
    c.Alters (.pointer .move p modifiers) (c.move p modifiers).2 := by
  unfold move
  split
  · exact alters_of_eq nofun rfl
  · exact alters_of_eq nofun rfl
  · exact alters_of_eq nofun rfl
  · next start origins _ =>
    exact .reboxed nofun (refCounter_shiftAll _ origins _) (reboxed_shiftAll _ _ origins _)
  · next session resizing =>
    have resizes : c.Resizes (.pointer .move p modifiers) session.key :=
      ⟨p, modifiers, session, rfl, resizing, rfl⟩
    exact .reboxed nofun rfl (reboxed_modify c.scene fun e here =>
      ⟨here.symm, rfl, rfl, .inl (here.symm ▸ resizes)⟩)

private theorem alters_release (p : Point α) (modifiers : Modifiers) :
    c.Alters (.pointer .up p modifiers) (c.release p).2 := by
  refine alters_of_eq nofun ?_
  unfold release
  split <;> rfl

omit [Scalar α] in
private theorem alters_deleteSelected : c.Alters (.command .deleteSelected) c.deleteSelected.2 := by
  refine .deleted rfl ?_
  unfold deleteSelected
  split
  · next none =>
    have empty : c.selection.keys = [] := List.isEmpty_iff.mp none
    simp [Scene.removeAll, empty]
  · rfl

omit [Scalar α] in
private theorem alters_command (shortcut : Command) :
    c.Alters (.command shortcut) (c.command shortcut).2 := by
  cases shortcut with
  | deleteSelected => exact c.alters_deleteSelected
  | clearSelection => exact alters_of_eq nofun rfl
  | moveUp => exact .restacked (by simp [Restacks]) rfl (Layers.raise_perm _ _)
  | moveDown => exact .restacked (by simp [Restacks]) rfl (Layers.lower_perm _ _)
  | bringToFront => exact .restacked (by simp [Restacks]) rfl (Layers.toTop_perm _ _)
  | sendToBack => exact .restacked (by simp [Restacks]) rfl (Layers.toBottom_perm _ _)

private theorem alters_respond : c.Alters event (c.respond event).2 := by
  cases event with
  | pointer phase p modifiers =>
    cases phase with
    | down => exact c.alters_press p modifiers
    | move => exact c.alters_move p modifiers
    | up => exact c.alters_release p modifiers
    | cancel => exact alters_of_eq nofun rfl
  | wheel p delta modifiers => exact alters_of_eq nofun rfl
  | command shortcut => exact c.alters_command shortcut

private theorem alters_handle : c.Alters event (c.handle event).2 := by
  rcases c.alters_respond event with ⟨spared, counter, elements⟩ | ⟨shortcut, scene, same⟩ |
    ⟨shortcut, scene⟩
  · exact .reboxed spared counter elements
  · exact .restacked shortcut scene same
  · exact .deleted shortcut scene

omit [Scalar α] in
private theorem Alters.refCounter {c c' : Canvas α} {event : InputEvent α}
    (alters : c.Alters event c') : c'.scene.refCounter = c.scene.refCounter := by
  rcases alters with ⟨-, counter, -⟩ | ⟨-, scene, -⟩ | ⟨-, scene⟩
  · exact counter
  · rw [scene]
  · rw [scene]
    rfl

omit [Scalar α] in
private theorem Alters.mem_keys_iff {c c' : Canvas α} {event : InputEvent α}
    (alters : c.Alters event c')
    (key : Key) : key ∈ c'.scene.keys ↔ key ∈ c.scene.keys ∧ ¬ c.Deletes event key := by
  rcases alters with ⟨spared, -, elements⟩ | ⟨shortcut, scene, same⟩ | ⟨shortcut, scene⟩
  · have keys : c'.scene.keys = c.scene.keys :=
      Scene.map_key_of_forall₂ (fun _ _ reboxed => reboxed.key) elements
    rw [keys]
    exact ⟨fun mem => ⟨mem, fun deletes => spared deletes.1⟩, And.left⟩
  · have spared := not_deletes_of_restacks shortcut
    have keys : c'.scene.keys.Perm c.scene.keys := by
      rw [scene]
      exact same.map Element.key
    rw [keys.mem_iff]
    exact ⟨fun mem => ⟨mem, fun deletes => spared deletes.1⟩, And.left⟩
  · have kept : key ∈ c'.scene.keys ↔ key ∈ c.scene.keys ∧ key ∉ c.selection.keys := by
      rw [scene]
      simp only [Scene.keys, Scene.removeAll, List.mem_map, List.mem_filter, decide_eq_true_eq]
      constructor
      · rintro ⟨e, ⟨mem, spared⟩, rfl⟩
        exact ⟨⟨e, mem, rfl⟩, spared⟩
      · rintro ⟨⟨e, mem, rfl⟩, spared⟩
        exact ⟨e, ⟨mem, spared⟩, rfl⟩
    rw [kept, Deletes]
    simp [shortcut]

private theorem idle_of_deletes {c : Canvas α} {event : InputEvent α} {key : Key}
    (deletes : c.Deletes event key) : (c.handle event).2.gesture = .idle := by
  obtain ⟨rfl, selected⟩ := deletes
  have some : c.selection.isEmpty = false :=
    Bool.eq_false_iff.mpr fun none => by
      rw [Selection.isEmpty, List.isEmpty_iff] at none
      simp [none] at selected
  change c.deleteSelected.2.gesture = .idle
  rw [deleteSelected, some]
  rfl

end Step

/-- The elements of a canvas whose keys are still in a later one, in the order that they had. -/
def remaining {α : Type} (c c' : Canvas α) : List (Element α) :=
  c.scene.elements.filter fun e => e.key ∈ c'.scene.keys

/-- A later canvas has what remains of one, in boxes that may be others; those that are resized may
have other sides, and the order may be another if the stack was restacked. -/
def Remains {α : Type} (c : Canvas α) (Resized : Key → Prop) (Restacked : Prop) (c' : Canvas α) :
    Prop :=
  ∃ kept, List.Forall₂ (Element.Reboxed Resized) kept c'.scene.elements ∧
    kept.Perm (c.remaining c') ∧ (¬ Restacked → kept = c.remaining c')

section Remaining

variable {α : Type} {c c' c'' : Canvas α} {event : InputEvent α} {Resized : Key → Prop}
  {Restacked : Prop}

private theorem remains_self (c : Canvas α) : c.Remains Resized Restacked c := by
  have all : c.remaining c = c.scene.elements :=
    List.filter_eq_self.mpr fun e mem => decide_eq_true (List.mem_map_of_mem mem)
  refine ⟨_, List.forall₂_same.mpr fun e _ => e.reboxed_refl _, ?_, fun _ => all.symm⟩
  rw [all]

private theorem remaining_of_spared
    (keys : ∀ key, key ∈ c''.scene.keys ↔ key ∈ c'.scene.keys ∧ ¬ c'.Deletes event key)
    (spared : event ≠ .command .deleteSelected) : c.remaining c'' = c.remaining c' := by
  have same (key : Key) : key ∈ c''.scene.keys ↔ key ∈ c'.scene.keys :=
    (keys key).trans (and_iff_left fun deletes => spared deletes.1)
  simp only [remaining, same]

private theorem Remains.step (remains : c.Remains Resized Restacked c')
    (alters : c'.Alters event c'') :
    c.Remains (fun key => Resized key ∨ c'.Resizes event key) (Restacked ∨ Restacks event) c'' := by
  obtain ⟨kept, elements, perm, ordered⟩ := remains
  have keys := alters.mem_keys_iff
  have wider : List.Forall₂ (Element.Reboxed fun key => Resized key ∨ c'.Resizes event key) kept
      c'.scene.elements :=
    elements.imp fun _ _ reboxed => reboxed.mono fun _ => .inl
  rcases alters with ⟨spared, -, reboxed⟩ | ⟨shortcut, scene, same⟩ | ⟨shortcut, scene⟩
  case reboxed =>
    rw [← remaining_of_spared keys spared] at perm ordered
    exact ⟨kept, forall₂_trans (fun _ _ _ here there => here.trans there fun _ => id) elements
      reboxed, perm, fun still => ordered (not_or.mp still).1⟩
  case restacked stack =>
    rw [← remaining_of_spared keys (not_deletes_of_restacks shortcut)] at perm
    -- What is put in another order now could have been put in that order before.
    have moved : Relation.Comp (List.Forall₂ _) List.Perm kept stack := ⟨_, wider, same.symm⟩
    rw [List.forall₂_comp_perm_eq_perm_comp_forall₂] at moved
    obtain ⟨kept', before, after⟩ := moved
    rw [Remains, scene]
    exact ⟨kept', after, before.symm.trans perm, fun still => absurd (.inr shortcut) still⟩
  case deleted =>
    let spares (e : Element α) : Bool := e.key ∉ c'.selection.keys
    have fewer : c.remaining c'' = (c.remaining c').filter spares := by
      rw [remaining, remaining, List.filter_filter]
      refine List.filter_congr fun e _ => ?_
      simp [keys, Deletes, shortcut, spares, and_comm]
    have both {R : Element α → Element α → Prop} (sameKey : ∀ e e', R e e' → e'.key = e.key)
        {es fs : List (Element α)} (related : List.Forall₂ R es fs) :
        List.Forall₂ R (es.filter spares) (fs.filter spares) :=
      List.rel_filter (fun e e' here => by simp [spares, sameKey e e' here]) related
    rw [Remains, fewer, scene]
    exact ⟨kept.filter spares, both (fun _ _ reboxed => reboxed.key) wider, perm.filter spares,
      fun still => congrArg (List.filter spares) (ordered (not_or.mp still).1)⟩

end Remaining

/-- In the course of the events one of them meets the canvas in a certain way. -/
def Meets (c : Canvas α) (events : List (InputEvent α))
    (Kind : Canvas α → InputEvent α → Prop) : Prop :=
  ∃ earlier event later, events = earlier ++ event :: later ∧ Kind (c.play earlier) event

section Run

variable (c : Canvas α) (events : List (InputEvent α))

private theorem play_concat (event : InputEvent α) :
    c.play (events ++ [event]) = ((c.play events).handle event).2 := by
  rw [play, List.foldl_append]
  rfl

private theorem meets_concat (event : InputEvent α) (Kind : Canvas α → InputEvent α → Prop) :
    c.Meets (events ++ [event]) Kind ↔ c.Meets events Kind ∨ Kind (c.play events) event := by
  constructor
  · rintro ⟨earlier, met, later, cut, kind⟩
    rcases List.eq_nil_or_concat later with rfl | ⟨later, last, rfl⟩
    · obtain ⟨rfl, same⟩ := List.append_inj' cut rfl
      obtain rfl := List.singleton_inj.mp same
      exact .inr kind
    · rw [List.concat_eq_append, ← List.cons_append, ← List.append_assoc] at cut
      exact .inl ⟨earlier, met, later, (List.append_inj' cut rfl).1, kind⟩
  · rintro (⟨earlier, met, later, rfl, kind⟩ | kind)
    · exact ⟨earlier, met, later ++ [event], by simp, kind⟩
    · exact ⟨events, event, [], rfl, kind⟩

private theorem refCounter_play : (c.play events).scene.refCounter = c.scene.refCounter := by
  induction events using List.reverseRecOn with
  | nil => rfl
  | append_singleton events event ih =>
    rw [play_concat]
    exact ((c.play events).alters_handle event).refCounter.trans ih

private theorem mem_keys_play_iff (key : Key) :
    key ∈ (c.play events).scene.keys ↔
      key ∈ c.scene.keys ∧ ¬ c.Meets events fun c event => c.Deletes event key := by
  induction events using List.reverseRecOn with
  | nil => simp [play, Meets]
  | append_singleton events event ih =>
    rw [play_concat, ((c.play events).alters_handle event).mem_keys_iff, ih, meets_concat, not_or,
      and_assoc]

private theorem remains_play :
    c.Remains (fun key => c.Meets events fun c event => c.Resizes event key)
      (c.Meets events fun _ event => Restacks event) (c.play events) := by
  induction events using List.reverseRecOn with
  | nil => exact c.remains_self
  | append_singleton events event ih =>
    simp only [meets_concat, play_concat]
    exact ih.step ((c.play events).alters_handle event)

end Run

/-- Whatever a user does to a canvas in whatever state, the next reference id stays, and what is
left of the scene are elements that it had, each with its key, its content and its reference id, and
none twice.  Their sides change only where the pointer moves while they are resized, and their order
only by a command for it.  A key goes just if it is selected when the selected elements are deleted;
then no gesture is under way, and it does not come back. -/
theorem events_touch_no_content (c : Canvas α) (events : List (InputEvent α)) :
    let c' := c.play events
    c'.scene.refCounter = c.scene.refCounter ∧
    c.Remains (fun key => c.Meets events fun c event => c.Resizes event key)
      (c.Meets events fun _ event => Restacks event) c' ∧
    (∀ key, key ∈ c'.scene.keys ↔
      key ∈ c.scene.keys ∧ ¬ c.Meets events fun c event => c.Deletes event key) ∧
    ∀ earlier event later key, events = earlier ++ event :: later →
      (c.play earlier).Deletes event key →
        (c.play (earlier ++ [event])).gesture = .idle ∧ key ∉ c'.scene.keys := by
  refine ⟨c.refCounter_play events, c.remains_play events, c.mem_keys_play_iff events, ?_⟩
  intro earlier event later key cut deletes
  constructor
  · rw [play_concat]
    exact idle_of_deletes deletes
  · intro stays
    exact ((c.mem_keys_play_iff events key).mp stays).2 ⟨earlier, event, later, cut, deletes⟩

example :
    let square : Element Float :=
      Element.make ⟨"fox"⟩ (.shape .rect "red" "") ⟨10.0, 10.0, 20.0, 20.0⟩
    let c : Canvas Float := { Canvas.ofSize 100.0 100.0 with scene := ⟨[square], 1⟩ }
    (c.play [.pointer .down ⟨15.0, 15.0⟩ .none, .command .deleteSelected,
      .pointer .move ⟨40.0, 25.0⟩ .none]).scene.elements = [] := by
  decide +kernel

end Canvas

end PromptCanvas

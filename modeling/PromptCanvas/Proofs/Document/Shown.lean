import PromptCanvas.Proofs.Document.RoundTrip

set_option autoImplicit false
set_option relaxedAutoImplicit false

namespace PromptCanvas

variable {α : Type}

/-- An image of the key that waits for a result is among the elements. -/
def Document.Shows (doc : Document α) (key : Key) : Prop :=
  ∃ saved ∈ doc.elements, saved.element.key = key ∧ saved.element.isRunning = true

instance (doc : Document α) (key : Key) : Decidable (doc.Shows key) :=
  inferInstanceAs (Decidable (∃ saved ∈ doc.elements, _))

/-- How many of the elements above that of a key can be found again. -/
def Scene.durableAbove (s : Scene α) (key : Key) : Nat :=
  (s.elements.dropWhile fun e => e.key ≠ key).tail.countP Document.isDurable

private theorem Element.isRunning_mapImage {change : Image α → Image α}
    (keeps : ∀ image, (change image).status = image.status) (e : Element α) :
    (e.mapImage change).isRunning = e.isRunning := by
  cases content : e.content <;>
    simp [isRunning, mapImage, Content.mapImage, Content.isRunning, content, keeps]

namespace Document

variable {s : Scene α} {key : Key} {e : Element α}

private theorem isDurable_of_isRunning (running : e.isRunning = true) : isDurable e = true := by
  cases content : e.content with
  | image image =>
    have waits : image.status = .running := by
      simpa [Element.isRunning, Content.isRunning, content] using running
    simp [isDurable, isDurableImage, content, waits]
  | generator | shape | text => simp [isDurable, content]

private theorem shows_ofScene (s : Scene α) (key : Key) :
    (ofScene s).Shows key ↔ ∃ e ∈ written s, e.key = key ∧ e.isRunning = true := by
  have shown : ∀ e : Element α, (e.mapImage savedImage).isRunning = e.isRunning :=
    Element.isRunning_mapImage fun _ => rfl
  calc (ofScene s).Shows key
      ↔ ∃ e ∈ (numbered (written s)).map SavedElement.element,
          e.key = key ∧ e.isRunning = true := by simp [Shows, elements_ofScene]
    _ ↔ ∃ e ∈ written s, e.key = key ∧ e.isRunning = true := by
      rw [numbered_element]
      simp only [List.mem_map, exists_exists_and_eq_and, shown]
      rfl

end Document

namespace Scene

variable {s : Scene α} {key : Key} {e : Element α}

private theorem exists_around (found : s.get? key = some e) :
    ∃ below above, s.elements = below ++ e :: above ∧ e.key = key ∧
      s.durableAbove key = above.countP Document.isDurable := by
  obtain ⟨here, below, above, eq, apart⟩ := List.find?_eq_some_iff_append.mp found
  refine ⟨below, above, eq, of_decide_eq_true here, ?_⟩
  have passed : ∀ other ∈ below, decide (other.key ≠ key) = true := by simpa using apart
  have reached : (e :: above).dropWhile (fun e => decide (e.key ≠ key)) = e :: above :=
    List.dropWhile_cons_of_neg (by simpa using here)
  rw [durableAbove, eq, List.dropWhile_append_of_pos passed, reached]
  rfl

theorem on_top (new : s.contains e.key = false) :
    let s' : Scene α := { s with elements := s.elements ++ [e] }
    s'.get? e.key = some e ∧ s'.durableAbove e.key = 0 := by
  intro s'
  have apart : ∀ other ∈ s.elements, other.key ≠ e.key := by simpa [contains, get?] using new
  have found : s'.get? e.key = some e := by
    have none : s.elements.find? (fun other => other.key = e.key) = none := by simpa using apart
    simp [s', get?, List.find?_append, none]
  have passed : ∀ other ∈ s.elements, decide (other.key ≠ e.key) = true := by simpa using apart
  refine ⟨found, ?_⟩
  rw [durableAbove, List.dropWhile_append_of_pos passed]
  simp

end Scene

namespace Document

variable {s : Scene α} {key : Key} {e : Element α}

private theorem mem_drop_middle {β : Type} {x : β} {below above : List β} {n : Nat}
    (apart : x ∉ above) : x ∈ (below ++ x :: above).drop n ↔ n ≤ below.length := by
  constructor
  · intro mem
    by_contra beyond
    obtain ⟨more, rfl⟩ : ∃ more, n = below.length + (more + 1) := ⟨n - below.length - 1, by omega⟩
    rw [List.drop_length_add_append, List.drop_succ_cons] at mem
    exact apart (List.mem_of_mem_drop mem)
  · intro within
    rw [List.drop_append_of_le_length within]
    exact List.mem_append_right _ List.mem_cons_self

/-- Of elements of different keys, a durable one is written just if there is room for it and all of
those above it. -/
private theorem mem_written_iff (nodup : s.keys.Nodup) (found : s.get? key = some e)
    (lasting : isDurable e = true) : e ∈ written s ↔ s.durableAbove key < maxElements := by
  obtain ⟨below, above, eq, -, count⟩ := Scene.exists_around found
  have apart : e ∉ above := by
    intro mem
    rw [Scene.keys, eq, List.map_append, List.map_cons] at nodup
    exact (List.nodup_cons.mp nodup.of_append_right).1 (List.mem_map_of_mem mem)
  have kept : durable s = below.filter isDurable ++ e :: above.filter isDurable := by
    rw [durable, eq, List.filter_append, List.filter_cons_of_pos lasting]
  have room : (durable s).length - maxElements ≤ (below.filter isDurable).length ↔
      (above.filter isDurable).length < maxElements := by
    rw [kept, List.length_append, List.length_cons]
    have some : 0 < maxElements := by decide
    omega
  rw [written, topmost, count, List.countP_eq_length_filter, ← room, kept]
  exact mem_drop_middle fun mem => apart (List.mem_of_mem_filter mem)

/-- A document shows an element that waits just if there is room for it and for all that is above
it and can be found again. -/
theorem shows_ofScene_iff (nodup : s.keys.Nodup) (key : Key) :
    (ofScene s).Shows key ↔ s.isRunning key = true ∧ s.durableAbove key < maxElements := by
  rw [shows_ofScene]
  constructor
  · rintro ⟨e, mem, rfl, running⟩
    have inside : e ∈ s.elements := (written_sublist s).subset mem
    have found : s.get? e.key = some e := Scene.get?_of_mem nodup inside
    refine ⟨?_, (mem_written_iff nodup found (isDurable_of_isRunning running)).mp mem⟩
    rw [Scene.isRunning, found]
    exact running
  · rintro ⟨running, room⟩
    cases found : s.get? key with
    | none => simp [Scene.isRunning, found] at running
    | some e =>
      have waits : e.isRunning = true := by simpa [Scene.isRunning, found] using running
      have here : e.key = key := by simpa using List.find?_some found
      exact ⟨e, (mem_written_iff nodup found (isDurable_of_isRunning waits)).mpr room, here, waits⟩

end Document

end PromptCanvas

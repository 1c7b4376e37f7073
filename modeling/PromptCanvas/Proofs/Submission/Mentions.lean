import Mathlib.Data.List.Nodup
import Mathlib.Data.Option.Basic
import PromptCanvas.Proofs.Prompt.Coverage
import PromptCanvas.Proofs.Scene
import PromptCanvas.Proofs.Submission.Bars

set_option autoImplicit false
set_option relaxedAutoImplicit false

namespace PromptCanvas

variable {α : Type}

def Scene.keyOfRef? (s : Scene α) (id : Nat) : Option Key := (s.byRefId? id).map Element.key

namespace Scene

variable {s : Scene α} {id other : Nat} {key : Key}

private theorem exists_of_keyOfRef? (named : s.keyOfRef? id = some key) :
    ∃ e ∈ s.elements, e.refId = some id ∧ e.key = key := by
  obtain ⟨e, found, same⟩ := Option.map_eq_some_iff.mp named
  exact ⟨e, List.mem_of_find?_eq_some found, by simpa using List.find?_some found, same⟩

private theorem eq_of_keyOfRef? (nodup : s.keys.Nodup) (named : s.keyOfRef? id = some key)
    (named' : s.keyOfRef? other = some key) : id = other := by
  obtain ⟨e, mem, carries, rfl⟩ := exists_of_keyOfRef? named
  obtain ⟨e', mem', carries', same⟩ := exists_of_keyOfRef? named'
  have found := get?_of_mem nodup mem
  rw [← same, get?_of_mem nodup mem'] at found
  obtain rfl := Option.some.inj found
  exact Option.some.inj (carries.symm.trans carries')

end Scene

namespace Reference

variable {scene : Scene α} {ids : List Nat} {keys : List Key}

private theorem map_of_resolve (resolved : resolve scene ids = .ok keys) :
    keys.map some = ids.map scene.keyOfRef? := by
  induction ids generalizing keys with
  | nil =>
    obtain rfl := Except.ok.inj resolved
    rfl
  | cons id ids ih =>
    rw [resolve_cons] at resolved
    split at resolved
    · cases resolved
    · next e named =>
      split at resolved
      · cases resolved
      · next keys rest =>
        obtain rfl := Except.ok.inj resolved
        rw [List.map_cons, List.map_cons, ih rest, Scene.keyOfRef?, named]
        rfl

theorem nodup_of_map (nodup : scene.keys.Nodup) (once : ids.Nodup)
    (named : keys.map some = ids.map scene.keyOfRef?) : keys.Nodup := by
  rw [← List.nodup_map_iff (Option.some_injective Key), named]
  refine once.map_on fun id mem other mem' same => ?_
  have there : scene.keyOfRef? id ∈ keys.map some := named ▸ List.mem_map_of_mem mem
  obtain ⟨key, -, found⟩ := List.mem_map.mp there
  exact Scene.eq_of_keyOfRef? nodup found.symm (same ▸ found.symm)

end Reference

namespace Submission

variable {canvas : Canvas α} {hasGeneration : Bool} {text : String} {admission : Admission}

private theorem references_of_parse {prompt : Prompt} (read : Prompt.parse text = .ok prompt) :
    prompt.references = Reference.ids text.toList := by
  unfold Prompt.parse at read
  split at read
  · cases read
  · next stripped size? extracted =>
    split at read
    · obtain rfl := Except.ok.inj read
      exact Prompt.ids_of_strips (Directive.strips_of_extract extracted)
    · cases read

private theorem references_withSelected {target : Target} (some : target.references ≠ [])
    (e : Element α) : (withSelected target e).references = target.references := by
  have none : target.references.isEmpty = false := by simpa using some
  unfold withSelected
  split
  · rfl
  · rw [none, Bool.and_false]
    rfl
  · rfl
  · rfl

theorem references_of_check (passed : check canvas hasGeneration text = .ok admission)
    (mentions : Reference.ids text.toList ≠ []) :
    admission.target.references.map some =
      (Reference.ids text.toList).map canvas.scene.keyOfRef? := by
  unfold check at passed
  split at passed
  · split at passed
    · cases passed
    · next prompt read =>
      rw [references_of_parse read] at passed
      split at passed
      · cases passed
      · next target resolved =>
        obtain rfl := Except.ok.inj passed
        unfold resolveTarget at resolved
        split at resolved
        · cases resolved
        · next keys named =>
          have mapped := Reference.map_of_resolve named
          have some : keys ≠ [] := by
            rintro rfl
            exact mentions (List.map_eq_nil_iff.mp mapped.symm)
          split at resolved
          · cases resolved
          · dsimp only at resolved
            split at resolved
            · obtain rfl := Except.ok.inj resolved
              exact mapped
            · split at resolved
              · cases resolved
              · obtain rfl := Except.ok.inj resolved
                rw [references_withSelected some]
                exact mapped
  · cases passed

theorem references_of_mem_jobs {size : Size} {prompts : List String} {first : Nat} {job : Job}
    (mem : job ∈ jobs admission size prompts first) :
    job.references = admission.target.references := by
  obtain ⟨place, short, rfl⟩ := List.mem_mapIdx.mp mem
  rfl

end Submission

end PromptCanvas

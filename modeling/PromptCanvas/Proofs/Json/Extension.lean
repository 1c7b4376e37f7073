import Mathlib.Data.List.Forall2
import PromptCanvas.Json.Value

set_option autoImplicit false
set_option relaxedAutoImplicit false

namespace PromptCanvas.Json

variable {α β : Type}

/-- The same value, but for further members of its objects, at any depth: what an object has under
a name of its own stays there. -/
inductive Extends : Json α → Json α → Prop
  | same (json : Json α) : Extends json json
  | arr {items items' : List (Json α)} : List.Forall₂ Extends items items' →
      Extends (.arr items) (.arr items')
  | obj {members members' : List (String × Json α)} (kept : String → Json α) :
      (∀ name json, members.lookup name = some json → members'.lookup name = some (kept name)) →
      (∀ name json, members.lookup name = some json → Extends json (kept name)) →
      Extends (.obj members) (.obj members')

/-- A value is read, whatever further members its objects are given. -/
def Yields (read : Json α → Option β) (json : Json α) (value : β) : Prop :=
  ∀ json', json.Extends json' → read json' = some value

def isPlain : Json α → Bool
  | .arr _ | .obj _ => false
  | _ => true

namespace Extends

variable {json json' : Json α} {members more : List (String × Json α)}

theorem append (apart : ∀ name ∈ more.map Prod.fst, name ∉ members.map Prod.fst) :
    Extends (.obj members) (.obj (more ++ members)) := by
  refine .obj (fun name => (members.lookup name).getD .null) ?_ fun name json found => ?_
  · intro name json found
    obtain ⟨before, after, rfl, -⟩ := List.lookup_eq_some_iff.mp found
    have absent : more.lookup name = none := by
      rw [List.lookup_eq_none_iff]
      intro member mem
      have other := apart member.1 (List.mem_map_of_mem mem)
      simp only [List.map_append, List.map_cons, List.mem_append, List.mem_cons] at other
      exact bne_iff_ne.mpr fun same => other (.inr (.inl same.symm))
    rw [List.lookup_append, absent, Option.none_or, found]
    rfl
  · rw [found]
    exact .same json

private theorem eq_of_isPlain (ext : json.Extends json') (plain : json.isPlain = true) :
    json' = json := by
  cases ext with
  | same => rfl
  | arr => cases plain
  | obj => cases plain

theorem of_arr {items : List (Json α)} (ext : Extends (.arr items) json) :
    ∃ items', json = .arr items' ∧ List.Forall₂ Extends items items' := by
  cases ext with
  | same => exact ⟨items, rfl, List.forall₂_same.mpr fun item _ => .same item⟩
  | arr each => exact ⟨_, rfl, each⟩

theorem of_obj (ext : Extends (.obj members) json) :
    ∃ members', json = .obj members' ∧ ∀ name found, members.lookup name = some found →
      ∃ kept, members'.lookup name = some kept ∧ found.Extends kept := by
  cases ext with
  | same => exact ⟨members, rfl, fun name found here => ⟨found, here, .same found⟩⟩
  | obj kept there within =>
    exact ⟨_, rfl, fun name found here =>
      ⟨kept name, there name found here, within name found here⟩⟩

theorem ne_null (ext : json.Extends json') (solid : json ≠ .null) : json' ≠ .null := by
  cases ext with
  | same => exact solid
  | arr => nofun
  | obj => nofun

end Extends

namespace Yields

variable {read : Json α → Option β} {json : Json α} {value : β}

theorem self (yields : Yields read json value) : read json = some value := yields json (.same json)

theorem plain (eq : read json = some value) (plain : json.isPlain = true) :
    Yields read json value := by
  intro json' ext
  rw [ext.eq_of_isPlain plain]
  exact eq

end Yields

end PromptCanvas.Json

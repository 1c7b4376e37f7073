import Mathlib.Data.List.Pairwise
import PromptCanvas.Scene

set_option autoImplicit false
set_option relaxedAutoImplicit false

namespace PromptCanvas

namespace Layers

variable {β γ : Type} {picked : β → Bool} {stack : List β}

theorem raise_perm (picked : β → Bool) (stack : List β) : (raise picked stack).1.Perm stack := by
  fun_induction raise picked stack with
  | case1 => exact .refl _
  | case2 a rest changed raised ih =>
    rw [raised] at ih
    exact ih.cons a
  | case3 a rest b more changed raised passes ih =>
    rw [raised] at ih
    exact (List.Perm.swap a b more).trans (ih.cons a)
  | case4 a rest b more changed raised stays ih =>
    rw [raised] at ih
    exact ih.cons a

private theorem lowerOnto_perm (picked : β → Bool) (below : β) (stack : List β) :
    (lowerOnto picked below stack).1.Perm (below :: stack) := by
  fun_induction lowerOnto picked below stack with
  | case1 => exact .refl _
  | case2 below a rest passes ih => exact (ih.cons a).trans (List.Perm.swap below a rest)
  | case3 below a rest stays lowered changed eq ih =>
    rw [eq] at ih
    exact ih.cons below

theorem lower_perm (picked : β → Bool) (stack : List β) : (lower picked stack).1.Perm stack := by
  cases stack with
  | nil => exact .refl _
  | cons a rest => exact lowerOnto_perm picked a rest

theorem toBottom_perm (picked : β → Bool) (stack : List β) : (toBottom picked stack).Perm stack :=
  List.filter_append_perm picked stack

theorem toTop_perm (picked : β → Bool) (stack : List β) : (toTop picked stack).Perm stack :=
  List.perm_append_comm.trans (toBottom_perm picked stack)

theorem raise_of_unchanged (unchanged : (raise picked stack).2 = false) :
    (raise picked stack).1 = stack := by
  fun_induction raise picked stack with
  | case1 => rfl
  | case2 a rest changed raised ih =>
    simp only [raised] at ih
    rw [← ih unchanged]
  | case3 a rest b more changed raised passes => cases unchanged
  | case4 a rest b more changed raised stays ih =>
    simp only [raised] at ih
    rw [← ih unchanged]

private theorem lowerOnto_of_unchanged {below : β}
    (unchanged : (lowerOnto picked below stack).2 = false) :
    (lowerOnto picked below stack).1 = below :: stack := by
  fun_induction lowerOnto picked below stack with
  | case1 => rfl
  | case2 below a rest passes => cases unchanged
  | case3 below a rest stays lowered changed eq ih =>
    simp only [eq] at ih
    rw [ih unchanged]

theorem lower_of_unchanged (unchanged : (lower picked stack).2 = false) :
    (lower picked stack).1 = stack := by
  cases stack with
  | nil => rfl
  | cons a rest => exact lowerOnto_of_unchanged unchanged

/-- In a stack whose picked items have only picked ones above them nothing is to be put on top. -/
private theorem toTop_eq_self
    (sorted : stack.Pairwise fun a b => picked a = true → picked b = true) :
    toTop picked stack = stack := by
  induction stack with
  | nil => rfl
  | cons a rest ih =>
    obtain ⟨above, sorted⟩ := List.pairwise_cons.mp sorted
    have same := ih sorted
    cases here : picked a with
    | false => simpa [toTop, here] using same
    | true =>
      have none : rest.filter (fun b => !picked b) = [] := by
        simpa using fun b mem => above b mem here
      have all : rest.filter picked = rest := by simpa using fun b mem => above b mem here
      simp [toTop, here, none, all]

theorem pairwise_toTop (picked : β → Bool) (stack : List β) :
    (toTop picked stack).Pairwise fun a b => picked a = true → picked b = true := by
  have below : ∀ a ∈ stack.filter fun a => !picked a, picked a = false := by simp
  have above : ∀ b ∈ stack.filter picked, picked b = true := by simp
  refine List.pairwise_append.mpr ⟨?_, ?_, ?_⟩
  · exact List.pairwise_of_forall_mem_list fun a memA _ _ here => by simp [below a memA] at here
  · exact List.pairwise_of_forall_mem_list fun _ _ b memB _ => above b memB
  · exact fun _ _ b memB _ => above b memB

private theorem toTop_of_map_eq (name : β → γ) (chosen : γ → Bool)
    (same : (toTop (fun a => chosen (name a)) stack).map name = stack.map name) :
    toTop (fun a => chosen (name a)) stack = stack := by
  refine toTop_eq_self ?_
  have sorted := pairwise_toTop (fun a => chosen (name a)) stack
  rw [← List.pairwise_map (R := fun x y => chosen x = true → chosen y = true), same] at sorted
  exact List.pairwise_map.mp sorted

theorem toBottom_eq_toTop (picked : β → Bool) (stack : List β) :
    toBottom picked stack = toTop (fun a => !picked a) stack := by
  simp [toBottom, toTop]

end Layers

namespace Scene

variable {α : Type} {s : Scene α} {keys : List Key}

theorem moveUp_of_unchanged (unchanged : (s.moveUp keys).1 = false) : (s.moveUp keys).2 = s := by
  change { s with elements := (Layers.raise (hasKeyIn keys) s.elements).1 } = s
  rw [Layers.raise_of_unchanged unchanged]

theorem moveDown_of_unchanged (unchanged : (s.moveDown keys).1 = false) :
    (s.moveDown keys).2 = s := by
  change { s with elements := (Layers.lower (hasKeyIn keys) s.elements).1 } = s
  rw [Layers.lower_of_unchanged unchanged]

theorem bringToFront_of_unchanged (unchanged : (s.bringToFront keys).1 = false) :
    (s.bringToFront keys).2 = s := by
  have same : (Layers.toTop (hasKeyIn keys) s.elements).map Element.key = s.keys := by
    simpa [bringToFront, restacked] using unchanged
  have stays := Layers.toTop_of_map_eq Element.key (fun key => decide (key ∈ keys)) same
  change { s with elements := Layers.toTop (hasKeyIn keys) s.elements } = s
  exact congrArg (fun elements => { s with elements }) stays

theorem sendToBack_of_unchanged (unchanged : (s.sendToBack keys).1 = false) :
    (s.sendToBack keys).2 = s := by
  have same : (Layers.toBottom (hasKeyIn keys) s.elements).map Element.key = s.keys := by
    simpa [sendToBack, restacked] using unchanged
  rw [Layers.toBottom_eq_toTop] at same
  have stays := Layers.toTop_of_map_eq Element.key (fun key => !decide (key ∈ keys)) same
  change { s with elements := Layers.toBottom (hasKeyIn keys) s.elements } = s
  rw [Layers.toBottom_eq_toTop]
  exact congrArg (fun elements => { s with elements }) stays

end Scene

end PromptCanvas

import Mathlib.Data.Set.List
import Mathlib.Tactic.Tauto
import PromptCanvas.Placement
import PromptCanvas.Proofs.Scalar.Order

set_option autoImplicit false
set_option relaxedAutoImplicit false

namespace PromptCanvas.Placement

section Sorting

variable {β : Type} {le : β → β → Bool} {P : β → Prop} {l l' : List β}

theorem pairwise_merge_of_forall
    (trans : ∀ a b c, P a → P b → P c → le a b = true → le b c = true → le a c = true)
    (total : ∀ a b, (le a b || le b a) = true) (all : ∀ a ∈ l, P a) (all' : ∀ a ∈ l', P a)
    (sorted : l.Pairwise fun a b => le a b = true)
    (sorted' : l'.Pairwise fun a b => le a b = true) :
    (l.merge l' le).Pairwise fun a b => le a b = true := by
  lift l to List {b // P b} using all
  lift l' to List {b // P b} using all'
  rw [← List.map_merge (r := fun a b => le a.1 b.1) fun _ _ _ _ => rfl, List.pairwise_map]
  exact List.pairwise_merge (fun ⟨a, ha⟩ ⟨b, hb⟩ ⟨c, hc⟩ => trans a b c ha hb hc)
    (fun a b => total a.1 b.1) l l' (List.pairwise_map.mp sorted) (List.pairwise_map.mp sorted')

theorem pairwise_mergeSort_of_forall
    (trans : ∀ a b c, P a → P b → P c → le a b = true → le b c = true → le a c = true)
    (total : ∀ a b, (le a b || le b a) = true) (all : ∀ a ∈ l, P a) :
    (l.mergeSort le).Pairwise fun a b => le a b = true := by
  lift l to List {b // P b} using all
  rw [← List.map_mergeSort (r := fun a b => le a.1 b.1) fun _ _ _ _ => rfl, List.pairwise_map]
  exact List.pairwise_mergeSort (fun ⟨a, ha⟩ ⟨b, hb⟩ ⟨c, hc⟩ => trans a b c ha hb hc)
    (fun a b => total a.1 b.1) l

end Sorting

namespace Cell

variable {a b c : Cell}

theorem notAfter_iff : a.notAfter b = true ↔
    a.ring < b.ring ∨ a.ring = b.ring ∧ (a.gy < b.gy ∨ a.gy = b.gy ∧ a.gx ≤ b.gx) := by
  unfold notAfter
  split
  · simp only [decide_eq_true_eq]
    omega
  · split <;> simp only [decide_eq_true_eq] <;> omega

private theorem notAfter_trans (first : a.notAfter b = true) (second : b.notAfter c = true) :
    a.notAfter c = true := by
  rw [notAfter_iff] at *
  omega

private theorem notAfter_total (a b : Cell) : a.notAfter b = true ∨ b.notAfter a = true := by
  rw [notAfter_iff, notAfter_iff]
  omega

end Cell

namespace Candidate

variable {α : Type} [Scalar α] {a b c : Candidate α}

theorem notAfter_iff : a.notAfter b = true ↔
    a.distance < b.distance ∨ ¬ b.distance < a.distance ∧ a.cell.notAfter b.cell = true := by
  unfold notAfter
  split
  · next less => simp [less]
  · next notLess =>
    split
    · next more => simp [notLess, more]
    · next notMore => simp [notLess, notMore]

theorem notAfter_total (a b : Candidate α) : (a.notAfter b || b.notAfter a) = true := by
  rw [Bool.or_eq_true, notAfter_iff, notAfter_iff]
  have cells := Cell.notAfter_total a.cell b.cell
  tauto

variable [OrderedScalar α]

def IsPlaced (a : Candidate α) : Prop := Scalar.agrees a.distance a.distance = true

theorem notAfter_trans (a b c : Candidate α) (ha : a.IsPlaced) (hb : b.IsPlaced) (hc : c.IsPlaced)
    (first : a.notAfter b = true) (second : b.notAfter c = true) : a.notAfter c = true := by
  rw [notAfter_iff] at *
  have ba : ¬ b.distance < a.distance := first.elim OrderedScalar.not_lt_of_lt And.left
  have cb : ¬ c.distance < b.distance := second.elim OrderedScalar.not_lt_of_lt And.left
  by_cases less : a.distance < c.distance
  · exact .inl less
  -- Else all three are equally far away, and the cells decide.
  have ab : ¬ a.distance < b.distance := OrderedScalar.not_lt_trans hc less cb
  have bc : ¬ b.distance < c.distance := OrderedScalar.not_lt_trans ha ba less
  refine .inr ⟨OrderedScalar.not_lt_trans hb cb ba, ?_⟩
  exact Cell.notAfter_trans (first.resolve_left ab).2 (second.resolve_left bc).2

theorem notAfter_of_settled {bound : α} (placed : b.IsPlaced) (near : a.distance < bound)
    (far : ¬ b.distance < bound) : a.notAfter b = true := by
  rw [notAfter_iff]
  by_cases less : a.distance < b.distance
  · exact .inl less
  · exact absurd near (OrderedScalar.not_lt_trans placed less far)

private theorem not_lt_of_notAfter {bound : α} (placed : a.IsPlaced) (far : ¬ a.distance < bound)
    (after : a.notAfter b = true) : ¬ b.distance < bound := by
  rw [notAfter_iff] at after
  have ba : ¬ b.distance < a.distance := after.elim OrderedScalar.not_lt_of_lt And.left
  exact OrderedScalar.not_lt_trans placed ba far

theorem not_lt_of_mem_dropWhile {bound : α} {l : List (Candidate α)}
    (placed : ∀ a ∈ l, a.IsPlaced) (sorted : l.Pairwise fun a b => a.notAfter b = true)
    (left : b ∈ l.dropWhile fun c => c.distance < bound) : ¬ b.distance < bound := by
  induction l with
  | nil => cases left
  | cons a rest ih =>
    obtain ⟨first, rest_placed⟩ := List.forall_mem_cons.mp placed
    obtain ⟨after, rest_sorted⟩ := List.pairwise_cons.mp sorted
    rw [List.dropWhile_cons] at left
    split at left
    · exact ih rest_placed rest_sorted left
    · next far =>
      have far : ¬ a.distance < bound := by simpa using far
      rcases List.mem_cons.mp left with rfl | later
      · exact far
      · exact not_lt_of_notAfter first far (after b later)

end Candidate

end PromptCanvas.Placement

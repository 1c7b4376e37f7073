import Mathlib.Data.List.Nodup

set_option autoImplicit false
set_option relaxedAutoImplicit false

namespace PromptCanvas

variable {β γ : Type}

theorem ne_of_nodup_around {kind : β → γ} {b : β} {below above : List β}
    (nodup : ((below ++ b :: above).map kind).Nodup) :
    ∀ other ∈ below ++ above, kind other ≠ kind b := by
  rw [List.map_append, List.map_cons, List.nodup_middle, ← List.map_append, List.nodup_cons]
    at nodup
  exact fun other mem same => nodup.1 (List.mem_map.mpr ⟨other, mem, same⟩)

variable [DecidableEq γ]

theorem find?_of_nodup {kind : β → γ} {items : List β} {b : β} (nodup : (items.map kind).Nodup)
    (mem : b ∈ items) : items.find? (fun other => kind other = kind b) = some b := by
  cases found : items.find? fun other => kind other = kind b with
  | none =>
    have apart : ∀ other ∈ items, kind other ≠ kind b := by simpa using found
    exact absurd rfl (apart b mem)
  | some other =>
    have same : kind other = kind b := by simpa using List.find?_some found
    rw [List.inj_on_of_nodup_map nodup (List.mem_of_find?_eq_some found) mem same]

structure KeepsFirst (kind : β → γ) (first : List β → List β) : Prop where
  nil : first [] = []
  cons (b : β) (rest : List β) :
    first (b :: rest) = b :: (first rest).filter fun later => kind later ≠ kind b

namespace KeepsFirst

variable {kind : β → γ} {first : List β → List β}

theorem sublist (keeps : KeepsFirst kind first) (items : List β) :
    (first items).Sublist items := by
  induction items with
  | nil =>
    rw [keeps.nil]
  | cons b rest ih =>
    rw [keeps.cons]
    exact (List.filter_sublist.trans ih).cons_cons b

theorem nodup (keeps : KeepsFirst kind first) (items : List β) :
    ((first items).map kind).Nodup := by
  induction items with
  | nil =>
    rw [keeps.nil]
    exact List.nodup_nil
  | cons b rest ih =>
    rw [keeps.cons, List.map_cons, List.nodup_cons]
    refine ⟨?_, ih.sublist (List.filter_sublist.map kind)⟩
    intro mem
    obtain ⟨later, kept, same⟩ := List.mem_map.mp mem
    have apart : kind later ≠ kind b := by simpa using (List.mem_filter.mp kept).2
    exact apart same

theorem mem_map_iff (keeps : KeepsFirst kind first) {items : List β} {c : γ} :
    c ∈ (first items).map kind ↔ c ∈ items.map kind := by
  constructor
  · exact fun mem => ((keeps.sublist items).map kind).subset mem
  · intro mem
    induction items with
    | nil => cases mem
    | cons b rest ih =>
      rw [keeps.cons, List.map_cons]
      rcases List.mem_cons.mp mem with rfl | later
      · exact List.mem_cons_self
      · obtain ⟨kept, there, rfl⟩ := List.mem_map.mp (ih later)
        by_cases same : kind kept = kind b
        · rw [same]
          exact List.mem_cons_self
        · refine List.mem_cons_of_mem _ (List.mem_map_of_mem ?_)
          exact List.mem_filter.mpr ⟨there, decide_eq_true same⟩

theorem eq_self (keeps : KeepsFirst kind first) {items : List β}
    (nodup : (items.map kind).Nodup) : first items = items := by
  induction items with
  | nil => exact keeps.nil
  | cons b rest ih =>
    rw [List.map_cons, List.nodup_cons] at nodup
    rw [keeps.cons, ih nodup.2, List.filter_eq_self.mpr]
    intro later mem
    have apart : kind later ≠ kind b := by
      intro same
      exact nodup.1 (List.mem_map.mpr ⟨later, mem, same⟩)
    simpa using apart

private theorem find?_eq (keeps : KeepsFirst kind first) (items : List β) (c : γ) :
    (first items).find? (fun b => kind b = c) = items.find? fun b => kind b = c := by
  induction items with
  | nil => rw [keeps.nil]
  | cons b rest ih =>
    rw [keeps.cons]
    by_cases here : kind b = c
    · simp [here]
    · simp only [List.find?_cons, here, decide_false, List.find?_filter, ← ih]
      congr 1
      funext other
      by_cases same : kind other = c <;> simp [same, Ne.symm here]

theorem find?_of_mem (keeps : KeepsFirst kind first) {items : List β} {b : β}
    (mem : b ∈ first items) : items.find? (fun other => kind other = kind b) = some b := by
  rw [← keeps.find?_eq]
  exact find?_of_nodup (keeps.nodup items) mem

private theorem filter_eq (keeps : KeepsFirst kind first) (items : List β) (p : γ → Bool) :
    first (items.filter fun b => p (kind b)) = (first items).filter fun b => p (kind b) := by
  induction items with
  | nil => simp [keeps.nil]
  | cons b rest ih =>
    rw [keeps.cons]
    by_cases wanted : p (kind b) = true
    · simp only [List.filter_cons, wanted, if_true, keeps.cons, ih, List.filter_filter,
        Bool.and_comm]
    · simp only [List.filter_cons, wanted, if_false, ih, List.filter_filter, Bool.false_eq_true]
      refine List.filter_congr fun later _ => ?_
      by_cases same : kind later = kind b <;> simp [same, wanted]

theorem map_eq_eraseDups (keeps : KeepsFirst kind first) (items : List β) :
    (first items).map kind = (items.map kind).eraseDups := by
  match items with
  | [] => simp [keeps.nil]
  | b :: rest =>
    -- The kinds behind the first item are those of a shorter list, in which its kind is left out.
    have shorter := map_eq_eraseDups keeps (rest.filter fun later => !kind later == kind b)
    rw [keeps.filter_eq rest fun c => !c == kind b] at shorter
    rw [keeps.cons, List.map_cons, List.map_cons, List.eraseDups_cons, List.filter_map]
    have kinds : (fun later => decide (kind later ≠ kind b)) =
        fun later => !kind later == kind b := by
      funext later
      by_cases same : kind later = kind b <;> simp [same]
    rw [kinds, shorter]
    rfl
termination_by items.length
decreasing_by exact Nat.lt_succ_of_le (List.length_filter_le _ _)

end KeepsFirst

end PromptCanvas

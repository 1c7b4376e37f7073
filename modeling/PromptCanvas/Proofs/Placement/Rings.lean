import Mathlib.Data.List.Nodup
import PromptCanvas.Placement

set_option autoImplicit false
set_option relaxedAutoImplicit false

namespace PromptCanvas.Placement

theorem mem_span {n : Nat} {g : Int} : g ∈ span n ↔ g.natAbs ≤ n := by
  simp only [span, List.mem_map, List.mem_range]
  constructor
  · rintro ⟨i, bound, rfl⟩
    simp only [Int.ofNat_eq_natCast]
    omega
  · intro bound
    exact ⟨(g + n).toNat, by omega, by simp only [Int.ofNat_eq_natCast]; omega⟩

theorem length_span (n : Nat) : (span n).length = 2 * n + 1 := by simp [span]

theorem nodup_span (n : Nat) : (span n).Nodup := by
  refine List.nodup_range.map fun i j same => ?_
  simp only [Int.ofNat_eq_natCast] at same
  omega

private theorem mem_row {n : Nat} {row : Int} {c : Cell} :
    c ∈ (span n).map (fun g => ⟨g, row⟩) ↔ c.gx.natAbs ≤ n ∧ c.gy = row := by
  obtain ⟨gx, gy⟩ := c
  simp [mem_span, eq_comm]

private theorem mem_column {n : Nat} {column : Int} {c : Cell} :
    c ∈ (span n).map (fun g => ⟨column, g⟩) ↔ c.gy.natAbs ≤ n ∧ c.gx = column := by
  obtain ⟨gx, gy⟩ := c
  simp [mem_span, eq_comm, and_comm]

theorem mem_ringCells {ring : Nat} {c : Cell} : c ∈ ringCells ring ↔ c.ring = ring := by
  unfold ringCells Cell.ring
  split
  · obtain ⟨gx, gy⟩ := c
    simp only [List.mem_singleton, Cell.mk.injEq]
    omega
  · simp only [List.mem_append, mem_row, mem_column]
    omega

theorem nodup_ringCells (ring : Nat) : (ringCells ring).Nodup := by
  have row : ∀ (n : Nat) (r : Int), ((span n).map fun g => (⟨g, r⟩ : Cell)).Nodup :=
    fun n r => (nodup_span n).map fun _ _ same => congrArg Cell.gx same
  have column : ∀ (n : Nat) (r : Int), ((span n).map fun g => (⟨r, g⟩ : Cell)).Nodup :=
    fun n r => (nodup_span n).map fun _ _ same => congrArg Cell.gy same
  unfold ringCells
  split
  · exact List.nodup_singleton _
  -- The rows take the corners, so the columns are one cell shorter at either end.
  refine List.Nodup.append (List.Nodup.append (List.Nodup.append (row _ _) (row _ _) ?_)
    (column _ _) ?_) (column _ _) ?_
  all_goals
    intro c one other
    simp only [List.mem_append, mem_row, mem_column] at one other
    omega

end PromptCanvas.Placement

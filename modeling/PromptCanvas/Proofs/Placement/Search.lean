import Mathlib
import PromptCanvas.Proofs.Placement.Order
import PromptCanvas.Proofs.Placement.Rings
import PromptCanvas.Proofs.Scalar.Exact
import PromptCanvas.Proofs.Scalar.Whole

/-!
The search for a free place tries every place, in order.

The rings are made one by one, and what is nearer than the next ring can be is tried before that
ring is made.  So the search comes to the cells in some order, `visits`, which is shown to be that
of their distances.  All that is asked of lengths is that a vector is no shorter than its
components.
-/

set_option autoImplicit false
set_option relaxedAutoImplicit false

namespace PromptCanvas.Placement

/-- On the axes of the grid each cell is farther away than the one before. -/
class ExactGrid (α : Type) [Scalar α] : Prop extends OrderedScalar α where
  axis_le {k : Nat} {g : Int} : k ≤ g.natAbs → g.natAbs ≤ maxRings →
    (Scalar.ofNat k * gridStep : α) ≤ Scalar.abs (Scalar.ofInt g * gridStep)

instance : ExactGrid Float where
  axis_le {k g} le small := by
    have step : Scalar.IsWhole (gridStep : Float) .positive 48 := ⟨rfl, by decide⟩
    unfold maxRings at small
    have near := (Scalar.IsWhole.ofNat (n := k) (by omega)).mul step (by omega)
    have far := (Scalar.IsWhole.ofInt (z := g) (by omega)).mul step (by omega)
    refine near.le (far.abs fun zero => ?_) (by omega)
    obtain rfl : g = 0 := by omega
    rfl

instance : ExactGrid ℝ where
  axis_le {k g} le _ := by
    have step : (0 : ℝ) ≤ gridStep := by norm_num [gridStep]
    have near : ((k : Int) : ℝ) ≤ |(g : ℝ)| := by
      rw [← Int.cast_abs, Int.cast_le, Int.abs_eq_natAbs]
      exact Int.ofNat_le.mpr le
    rw [Scalar.abs_eq_exact, abs_mul, abs_of_nonneg step]
    exact mul_le_mul_of_nonneg_right near step

/-- A vector of the grid is no shorter than either of its components. -/
def NoneShorter (α : Type) [Scalar α] : Prop :=
  ∀ c : Cell, c.ring ≤ maxRings →
    Scalar.abs (c.offset : Point α).x ≤ (c.offset : Point α).length ∧
      Scalar.abs (c.offset : Point α).y ≤ (c.offset : Point α).length

variable {α : Type} [Scalar α]

section Visits

def visits (last ring : Nat) (pending : List (Candidate α)) : List (Candidate α) :=
  let pending := pending.merge (ringCandidates ring) Candidate.notAfter
  if last ≤ ring then pending
  else
    let settled := Scalar.ofNat (ring + 1) * gridStep
    (pending.takeWhile fun c => c.distance < settled) ++
      visits last (ring + 1) (pending.dropWhile fun c => c.distance < settled)
termination_by last - ring

private theorem searchFrom_eq (fits : Cell → Bool) (last ring : Nat)
    (pending : List (Candidate α)) :
    searchFrom fits last ring pending =
      ((visits last ring pending).find? fun c => fits c.cell).map Candidate.cell := by
  fun_induction visits last ring pending with
  | case1 ring pending merged reached =>
    rw [searchFrom, if_pos reached]
  | case2 ring pending merged more settled ih =>
    rw [searchFrom, if_neg more, List.find?_append]
    simp only []
    split
    · next found first => rw [first]; rfl
    · next first => rw [first]; exact ih

def cellsFrom (ring last : Nat) : List Cell :=
  (List.range' ring (last + 1 - ring)).flatMap ringCells

private theorem ringCandidates_perm (ring : Nat) :
    (ringCandidates ring : List (Candidate α)).Perm ((ringCells ring).map Cell.candidate) :=
  List.mergeSort_perm _ _

private theorem mem_cellsFrom {ring last : Nat} {c : Cell} :
    c ∈ cellsFrom ring last ↔ ring ≤ c.ring ∧ c.ring ≤ last := by
  simp only [cellsFrom, List.mem_flatMap, List.mem_range'_1, mem_ringCells]
  constructor
  · rintro ⟨r, bounds, rfl⟩
    omega
  · intro bounds
    exact ⟨c.ring, by omega, rfl⟩

private theorem nodup_cellsFrom (ring last : Nat) : (cellsFrom ring last).Nodup := by
  refine List.nodup_flatMap.mpr ⟨fun r _ => nodup_ringCells r, ?_⟩
  refine (List.nodup_range' : (List.range' ring (last + 1 - ring)).Nodup).imp fun {r r'} apart => ?_
  intro c one other
  exact apart ((mem_ringCells.mp one).symm.trans (mem_ringCells.mp other))

private theorem visits_perm {last ring : Nat} (within : ring ≤ last)
    (pending : List (Candidate α)) :
    (visits last ring pending).Perm (pending ++ (cellsFrom ring last).map Cell.candidate) := by
  fun_induction visits last ring pending with
  | case1 ring pending merged reached =>
    obtain rfl : ring = last := by omega
    have one : cellsFrom ring ring = ringCells ring := by simp [cellsFrom]
    rw [one]
    exact (List.merge_perm_append _).trans ((ringCandidates_perm ring).append_left pending)
  | case2 ring pending merged more settled ih =>
    have later : cellsFrom ring last = ringCells ring ++ cellsFrom (ring + 1) last := by
      have count : last + 1 - ring = last + 1 - (ring + 1) + 1 := by omega
      rw [cellsFrom, count, List.range'_succ, List.flatMap_cons, cellsFrom]
    have rest := (ih (by omega)).append_left (merged.takeWhile fun c => c.distance < settled)
    rw [← List.append_assoc, List.takeWhile_append_dropWhile] at rest
    refine rest.trans ?_
    rw [later, List.map_append, ← List.append_assoc]
    exact ((List.merge_perm_append _).trans
      ((ringCandidates_perm ring).append_left pending)).append_right _

end Visits

def Candidate.InReach (a : Candidate α) : Prop := a = a.cell.candidate ∧ a.cell.ring ≤ maxRings

private theorem inReach_ringCandidates {ring : Nat} (bound : ring ≤ maxRings) :
    ∀ a ∈ (ringCandidates ring : List (Candidate α)), a.InReach := by
  intro a mem
  obtain ⟨c, member, rfl⟩ := List.mem_map.mp ((ringCandidates_perm ring).mem_iff.mp mem)
  exact ⟨rfl, (mem_ringCells.mp member).trans_le bound⟩

section Sorted

variable [ExactGrid α]

private theorem Candidate.InReach.isPlaced {a : Candidate α} (none_shorter : NoneShorter α)
    (reach : a.InReach) : a.IsPlaced := by
  obtain ⟨form, near⟩ := reach
  rw [IsPlaced, form]
  exact OrderedScalar.agrees_of_le (none_shorter a.cell near).1

private theorem Candidate.InReach.not_lt_settled {a : Candidate α} (none_shorter : NoneShorter α)
    (reach : a.InReach) {ring : Nat} (later : ring ≤ a.cell.ring) :
    ¬ a.distance < Scalar.ofNat ring * gridStep := by
  obtain ⟨form, near⟩ := reach
  obtain ⟨byX, byY⟩ := none_shorter a.cell near
  have distance : a.distance = (a.cell.offset : Point α).length := by
    rw [form]
    rfl
  rw [distance]
  unfold Cell.ring at later near
  rcases Nat.le_total a.cell.gy.natAbs a.cell.gx.natAbs with wide | tall
  · have axis := ExactGrid.axis_le (α := α) (k := ring) (g := a.cell.gx) (by omega) (by omega)
    exact LawfulScalar.not_lt_of_le (OrderedScalar.le_trans axis byX)
  · have axis := ExactGrid.axis_le (α := α) (k := ring) (g := a.cell.gy) (by omega) (by omega)
    exact LawfulScalar.not_lt_of_le (OrderedScalar.le_trans axis byY)

private theorem merge_ring (none_shorter : NoneShorter α) {ring : Nat} (bound : ring ≤ maxRings)
    {pending : List (Candidate α)} (reach : ∀ a ∈ pending, a.InReach)
    (sorted : pending.Pairwise fun a b => a.notAfter b = true) :
    let merged := pending.merge (ringCandidates ring) Candidate.notAfter
    (∀ a ∈ merged, a.InReach) ∧ merged.Pairwise fun a b => a.notAfter b = true := by
  have ringReach := inReach_ringCandidates (α := α) bound
  refine ⟨fun a mem => (List.mem_merge.mp mem).elim (reach a) (ringReach a), ?_⟩
  have ringSorted : (ringCandidates ring : List (Candidate α)).Pairwise fun a b =>
      a.notAfter b = true :=
    pairwise_mergeSort_of_forall Candidate.notAfter_trans Candidate.notAfter_total
      fun a mem => (ringReach a (List.mem_mergeSort.mpr mem)).isPlaced none_shorter
  exact pairwise_merge_of_forall Candidate.notAfter_trans Candidate.notAfter_total
    (fun a mem => (reach a mem).isPlaced none_shorter)
    (fun a mem => (ringReach a mem).isPlaced none_shorter) sorted ringSorted

private theorem visits_sorted (none_shorter : NoneShorter α) {last ring : Nat}
    (within : ring ≤ last)
    (bound : last ≤ maxRings) {pending : List (Candidate α)} (reach : ∀ a ∈ pending, a.InReach)
    (sorted : pending.Pairwise fun a b => a.notAfter b = true) :
    (visits last ring pending).Pairwise fun a b => a.notAfter b = true := by
  fun_induction visits last ring pending with
  | case1 ring pending merged reached => exact (merge_ring none_shorter (by omega) reach sorted).2
  | case2 ring pending merged more settled ih =>
    have ringBound : ring ≤ maxRings := by omega
    obtain ⟨mergedReach, mergedSorted⟩ := merge_ring none_shorter ringBound reach sorted
    have dropped : (merged.dropWhile fun c => c.distance < settled).Sublist merged :=
      List.dropWhile_sublist _
    have later := ih (by omega) (fun a mem => mergedReach a (dropped.subset mem))
      (mergedSorted.sublist dropped)
    refine List.pairwise_append.mpr
      ⟨mergedSorted.sublist (List.takeWhile_sublist _), later, fun a early b late => ?_⟩
    have near : a.distance < settled := by simpa using List.mem_takeWhile_imp early
    rcases List.mem_append.mp ((visits_perm (by omega) _).mem_iff.mp late) with left | made
    · have placed := (mergedReach b (dropped.subset left)).isPlaced none_shorter
      refine Candidate.notAfter_of_settled placed near ?_
      exact Candidate.not_lt_of_mem_dropWhile
        (fun c mem => (mergedReach c mem).isPlaced none_shorter) mergedSorted left
    · obtain ⟨c, member, rfl⟩ := List.mem_map.mp made
      obtain ⟨beyond, within⟩ := mem_cellsFrom.mp member
      have reach : (c.candidate : Candidate α).InReach := ⟨rfl, within.trans bound⟩
      exact Candidate.notAfter_of_settled (reach.isPlaced none_shorter) near
        (reach.not_lt_settled none_shorter beyond)

end Sorted

/-- A cell is to be tried strictly before another: it is nearer, or as near and in an earlier ring,
row, or column. -/
def Precedes (α : Type) [Scalar α] (c d : Cell) : Prop :=
  (c.offset : Point α).length < (d.offset : Point α).length ∨
    ¬ (d.offset : Point α).length < (c.offset : Point α).length ∧
      (c.ring < d.ring ∨ c.ring = d.ring ∧ (c.gy < d.gy ∨ c.gy = d.gy ∧ c.gx < d.gx))

/-- All cells up to a ring, in the order in which they are to be tried. -/
structure TrialOrder (α : Type) [Scalar α] (rings : Nat) (order : List Cell) : Prop where
  complete : ∀ c, c ∈ order ↔ c.gx.natAbs ≤ rings ∧ c.gy.natAbs ≤ rings
  sorted : order.Pairwise (Precedes α)

/-- The box of a cell, where the box of the middle cell is centred on the anchor. -/
def boxAt (w h : α) (anchor : Point α) (c : Cell) : Rect α :=
  ⟨anchor.x - w / 2.0 + Scalar.ofInt c.gx * 48.0, anchor.y - h / 2.0 + Scalar.ofInt c.gy * 48.0,
    w, h⟩

/-- The first place in an order whose box keeps clear of the existing ones by 18 units, and the
place of the box that is centred on the anchor where there is none. -/
def firstClear (existing : List (Rect α)) (w h : α) (anchor : Point α) (order : List Cell) :
    Point α :=
  let boxes := order.map (boxAt w h anchor)
  match boxes.find? fun box => existing.all fun r => !box.overlapsPadded r 18.0 with
  | some box => box.origin
  | none => ⟨anchor.x - w / 2.0, anchor.y - h / 2.0⟩

private theorem precedes_of_notAfter {c d : Cell} (apart : c ≠ d)
    (before : (c.candidate : Candidate α).notAfter d.candidate = true) : Precedes α c d := by
  rcases Candidate.notAfter_iff.mp before with less | ⟨notMore, cells⟩
  · exact .inl less
  · refine .inr ⟨notMore, ?_⟩
    obtain ⟨gx, gy⟩ := c
    obtain ⟨gx', gy'⟩ := d
    have cells := Cell.notAfter_iff.mp cells
    simp only [ne_eq, Cell.mk.injEq, Cell.candidate] at apart cells ⊢
    omega

section Exhaustive

variable [ExactGrid α] {n : Nat} {order other : List Cell}

private theorem Precedes.asymm {c d : Cell} (first : Precedes α c d) (second : Precedes α d c) :
    False := by
  rcases first with less | ⟨notMore, first⟩ <;> rcases second with more | ⟨notLess, second⟩
  · exact OrderedScalar.not_lt_of_lt less more
  · exact notLess less
  · exact notMore more
  · omega

namespace TrialOrder

private theorem nodup (h : TrialOrder α n order) : order.Nodup :=
  h.sorted.imp fun before same => (same ▸ before).asymm (same ▸ before)

private theorem eq (h : TrialOrder α n order) (h' : TrialOrder α n other) : other = order := by
  have perm : other.Perm order := (List.perm_ext_iff_of_nodup h'.nodup h.nodup).mpr fun c =>
    (h'.complete c).trans (h.complete c).symm
  exact perm.eq_of_pairwise (fun _ _ _ _ first second => (first.asymm second).elim) h'.sorted
    h.sorted

private theorem length (h : TrialOrder α n order) : order.length = (2 * n + 1) ^ 2 := by
  let square := (span n ×ˢ span n).map fun g => (⟨g.1, g.2⟩ : Cell)
  have square_nodup : square.Nodup := by
    refine ((nodup_span n).product (nodup_span n)).map fun g g' same => ?_
    exact Prod.ext (congrArg Cell.gx same) (congrArg Cell.gy same)
  have member : ∀ c, c ∈ square ↔ c.gx.natAbs ≤ n ∧ c.gy.natAbs ≤ n := by
    rintro ⟨gx, gy⟩
    simp [square, mem_span]
  have perm : order.Perm square := (List.perm_ext_iff_of_nodup h.nodup square_nodup).mpr fun c =>
    (h.complete c).trans (member c).symm
  rw [perm.length_eq, List.length_map, List.length_product, length_span, pow_two]

end TrialOrder

private theorem trialOrder_visits (none_shorter : NoneShorter α) (bound : n ≤ maxRings) :
    TrialOrder α n ((visits n 0 ([] : List (Candidate α))).map Candidate.cell) := by
  have sorted := visits_sorted (α := α) none_shorter (Nat.zero_le n) bound
    (fun _ => (absurd · List.not_mem_nil)) .nil
  have all := visits_perm (Nat.zero_le n) ([] : List (Candidate α))
  rw [List.nil_append] at all
  generalize visits n 0 ([] : List (Candidate α)) = candidates at sorted all ⊢
  have cells : (candidates.map Candidate.cell).Perm (cellsFrom 0 n) := by
    have cells := all.map Candidate.cell
    rwa [List.map_map, List.map_id''] at cells
    exact fun _ => rfl
  constructor
  case complete =>
    intro c
    rw [cells.mem_iff, mem_cellsFrom, Cell.ring]
    omega
  case sorted =>
    have apart := List.pairwise_map.mp (cells.nodup_iff.mpr (nodup_cellsFrom 0 n))
    refine List.pairwise_map.mpr ((sorted.and apart).imp_of_mem ?_)
    rintro a b memA memB ⟨before, apart⟩
    obtain ⟨c, -, rfl⟩ := List.mem_map.mp (all.mem_iff.mp memA)
    obtain ⟨d, -, rfl⟩ := List.mem_map.mp (all.mem_iff.mp memB)
    exact precedes_of_notAfter apart before

end Exhaustive

private theorem rings_le (existing : List (Rect α)) (w h viewW viewH : α) :
    rings existing w h viewW viewH ≤ maxRings := by
  simp only [rings]
  split
  · exact Nat.min_le_right _ _
  · decide

private theorem nearestFree_eq (existing : List (Rect α)) (w h : α) (anchor : Point α)
    (viewW viewH : α) :
    nearestFree existing w h anchor viewW viewH =
      firstClear existing w h anchor
        ((visits (rings existing w h viewW viewH) 0 ([] : List (Candidate α))).map
          Candidate.cell) := by
  let clear (c : Cell) : Bool := isClear existing (boxAt w h anchor c)
  have search := searchFrom_eq clear (rings existing w h viewW viewH) 0 ([] : List (Candidate α))
  simp only [nearestFree, firstClear]
  generalize visits (rings existing w h viewW viewH) 0 ([] : List (Candidate α)) = candidates
    at search ⊢
  have look : (((candidates.map Candidate.cell).map (boxAt w h anchor)).find? fun box =>
      existing.all fun r => !box.overlapsPadded r 18.0) =
      (searchFrom clear (rings existing w h viewW viewH) 0 ([] : List (Candidate α))).map
        (boxAt w h anchor) := by
    rw [search, List.find?_map, List.find?_map]
    rfl
  split
  · next c found =>
    have found := look.trans (congrArg (Option.map (boxAt w h anchor)) found)
    simp only [found]
    rfl
  · next none =>
    have none := look.trans (congrArg (Option.map (boxAt w h anchor)) none)
    simp only [none]
    rfl

private theorem overlaps_of_firstClear {existing : List (Rect α)} {w h : α} {anchor p : Point α}
    {order : List Cell} (found : p = firstClear existing w h anchor order)
    (overlap : ∃ r ∈ existing, (⟨p.x, p.y, w, h⟩ : Rect α).overlapsPadded r 18.0 = true) :
    ∀ c ∈ order, ∃ r ∈ existing, (boxAt w h anchor c).overlapsPadded r 18.0 = true := by
  simp only [firstClear] at found
  split at found
  · next box clear =>
    obtain ⟨d, -, rfl⟩ := List.mem_map.mp (List.mem_of_find?_eq_some clear)
    obtain ⟨r, member, overlaps⟩ := overlap
    rw [found] at overlaps
    have free := List.find?_some clear
    have apart := List.all_eq_true.mp free r member
    rw [Bool.not_eq_true'] at apart
    exact absurd (overlaps.symm.trans apart) (by decide)
  · next none =>
    intro c mem
    have taken := List.find?_eq_none.mp none _ (List.mem_map_of_mem mem)
    simpa using taken

/-- The place that is found is the one that an exhaustive search finds: a look, in their one order,
through all places of the grid up to the last ring.  So a place that does not keep clear of the
existing boxes is given just where no place does. -/
theorem search_is_exhaustive [ExactGrid α] (none_shorter : NoneShorter α)
    (existing : List (Rect α)) (w h : α) (anchor : Point α) (viewW viewH : α) :
    let last := rings existing w h viewW viewH
    let p := nearestFree existing w h anchor viewW viewH
    ∃ order, TrialOrder α last order ∧ (∀ other, TrialOrder α last other → other = order) ∧
      order.length = (2 * last + 1) ^ 2 ∧ p = firstClear existing w h anchor order ∧
      ((∃ r ∈ existing, (⟨p.x, p.y, w, h⟩ : Rect α).overlapsPadded r 18.0 = true) →
        ∀ c ∈ order, ∃ r ∈ existing, (boxAt w h anchor c).overlapsPadded r 18.0 = true) := by
  intro last p
  have trial := trialOrder_visits none_shorter (rings_le existing w h viewW viewH)
  have found := nearestFree_eq existing w h anchor viewW viewH
  exact ⟨_, trial, fun _ h => trial.eq h, trial.length, found, overlaps_of_firstClear found⟩

private theorem noneShorter_exact : NoneShorter ℝ := by
  intro c _
  rw [Scalar.abs_eq_exact, Scalar.abs_eq_exact]
  exact ⟨Real.abs_le_sqrt (le_add_of_nonneg_right (sq_nonneg _)),
    Real.abs_le_sqrt (le_add_of_nonneg_left (sq_nonneg _))⟩

private theorem minRings_le_rings (existing : List (Rect α)) (w h viewW viewH : α) :
    minRings ≤ rings existing w h viewW viewH := by
  simp only [rings]
  split
  · exact Nat.le_min.mpr ⟨Nat.le_max_right _ _, by decide⟩
  · exact Nat.le_refl _

noncomputable def inTheWay : Rect ℝ := ⟨0, 0, 64, 64⟩

theorem clear_of_inTheWay :
    NoneShorter ℝ ∧
      (let p := nearestFree [inTheWay] 64 64 ⟨32, 32⟩ 100 100
      (⟨p.x, p.y, 64, 64⟩ : Rect ℝ).overlapsPadded inTheWay 18.0 = false) := by
  refine ⟨noneShorter_exact, Bool.eq_false_iff.mpr fun overlaps => ?_⟩
  obtain ⟨order, trial, -, -, -, clear⟩ :=
    search_is_exhaustive noneShorter_exact [inTheWay] 64 64 ⟨32, 32⟩ 100 100
  have few := minRings_le_rings [inTheWay] 64 64 100 100
  have mem : ⟨26, 0⟩ ∈ order := (trial.complete _).mpr ⟨few, Nat.zero_le _⟩
  obtain ⟨r, member, taken⟩ := clear ⟨_, List.mem_singleton_self _, overlaps⟩ _ mem
  obtain rfl := List.mem_singleton.mp member
  simp only [Rect.overlapsPadded, Bool.and_eq_true, decide_eq_true_eq] at taken
  have west : (boxAt 64 64 ⟨32, 32⟩ ⟨26, 0⟩ : Rect ℝ).x < inTheWay.right + 18.0 := taken.1.1.1
  have column : (Scalar.ofInt 26 : ℝ) = 26 := Int.cast_ofNat 26
  norm_num [boxAt, inTheWay, Rect.right, column] at west

end PromptCanvas.Placement

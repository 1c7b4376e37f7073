import Mathlib.Algebra.Order.Floor.Semiring
import Mathlib.Analysis.SpecialFunctions.Sqrt
import PromptCanvas.Proofs.Document.Sound
import PromptCanvas.Proofs.Geometry

/-!
The layout of a catalog, in exact arithmetic.

Each asset has a square of its own in a grid that is as wide as it is high, and fills it as far as
the proportions of its bitmap allow.  The squares are 24 units apart, and so are the boxes in them.
-/

set_option autoImplicit false
set_option relaxedAutoImplicit false

namespace PromptCanvas

/-- A box has the proportions of a bitmap and a longer side of 320; only a side that would come out
below one is one. -/
structure Rect.Proportioned (r : Rect ℝ) (w h : ℝ) : Prop where
  longer : max r.w r.h = 320
  width : r.w = max 1 (320 * w / max w h)
  height : r.h = max 1 (320 * h / max w h)
  ratio : 1 < r.w → 1 < r.h → r.w / r.h = w / h

/-- A finished image that shows an asset and is stored as that asset. -/
structure Image.IsOf {α : Type} (image : Image α) (asset : Asset) : Prop where
  src : image.src = asset.url
  contentHash : image.contentHash = some asset.contentHash
  assetId : image.assetId = some asset.id
  status : image.status = .done
  syncStatus : image.syncStatus = some .synced

namespace Document

section Columns

private theorem columnsFrom_spec {n columns steps : Nat}
    (enough : n ≤ (columns + steps) * (columns + steps)) :
    let found := columnsFrom n columns steps
    n ≤ found * found ∧ columns ≤ found ∧ ∀ fewer, columns ≤ fewer → fewer < found →
      fewer * fewer < n := by
  induction steps generalizing columns with
  | zero => exact ⟨enough, le_rfl, fun fewer least most => absurd most (not_lt.mpr least)⟩
  | succ steps ih =>
    rw [columnsFrom]
    split
    · next fits => exact ⟨fits, le_rfl, fun fewer least most => absurd most (not_lt.mpr least)⟩
    · next short =>
      have shifted : columns + 1 + steps = columns + (steps + 1) := by omega
      obtain ⟨fits, least, none⟩ := @ih (columns + 1) (by rwa [shifted])
      refine ⟨fits, Nat.le_of_succ_le least, fun fewer from_here below => ?_⟩
      rcases Nat.eq_or_lt_of_le from_here with rfl | later
      · exact not_le.mp short
      · exact none fewer later below

private theorem columns_eq_ceil_sqrt (n : Nat) : columns n = max 1 ⌈√(n : ℝ)⌉₊ := by
  have root {k : Nat} : ⌈√(n : ℝ)⌉₊ ≤ k ↔ n ≤ k * k := by
    rw [Nat.ceil_le, Real.sqrt_le_left (Nat.cast_nonneg k), sq]
    exact_mod_cast Iff.rfl
  obtain ⟨fits, least, none⟩ := @columnsFrom_spec n 1 n (by nlinarith)
  refine le_antisymm (not_lt.mp fun fewer => ?_) (max_le least (root.mpr fits))
  have few := none _ (le_max_left 1 ⌈√(n : ℝ)⌉₊) fewer
  exact absurd (root.mp (le_max_right 1 _)) (not_le.mpr few)

end Columns

section Grid

noncomputable def gridSquare (column row : Nat) : Rect ℝ := ⟨column * 344, row * 344, 320, 320⟩

private theorem apart_gridSquare {column row column' row' : Nat}
    (other : column ≠ column' ∨ row ≠ row') :
    (gridSquare column row).Apart (gridSquare column' row') 24 := by
  have step {m n : Nat} (before : m < n) : (m : ℝ) * 344 + 320 + 24 ≤ n * 344 := by
    have next : (m : ℝ) + 1 ≤ n := by exact_mod_cast before
    linarith
  rcases other with columns | rows
  · rcases Nat.lt_or_gt_of_ne columns with left | right
    · exact .inl (step left)
    · exact .inr (.inl (step right))
  · rcases Nat.lt_or_gt_of_ne rows with above | below
    · exact .inr (.inr (.inl (step above)))
    · exact .inr (.inr (.inr (step below)))

private theorem square_ne {columns place other : Nat} (apart : place ≠ other) :
    place % columns ≠ other % columns ∨ place / columns ≠ other / columns := by
  by_contra same
  rw [not_or, not_not, not_not] at same
  refine apart ?_
  rw [← Nat.div_add_mod place columns, same.1, same.2, Nat.div_add_mod]

end Grid

section Boxes

variable {w h : ℝ}

private theorem mul_scale (w_pos : 0 < w) (h_pos : 0 < h) :
    w * min (320 / w) (320 / h) = 320 * w / max w h := by
  rcases le_total w h with tall | wide
  · rw [min_eq_right (div_le_div_of_nonneg_left (by norm_num) w_pos tall), max_eq_right tall]
    ring
  · rw [min_eq_left (div_le_div_of_nonneg_left (by norm_num) h_pos wide), max_eq_left wide]
    ring

private theorem proportioned_of_sides {r : Rect ℝ} (w_pos : 0 < w) (h_pos : 0 < h)
    (width : r.w = max 1 (320 * w / max w h)) (height : r.h = max 1 (320 * h / max w h)) :
    r.Proportioned w h := by
  have long : 0 < max w h := lt_max_of_lt_left w_pos
  have whole {side : ℝ} (positive : 0 < side) : 320 * side / side = 320 :=
    mul_div_cancel_right₀ 320 positive.ne'
  have part {side : ℝ} (le : side ≤ max w h) : 320 * side / max w h ≤ 320 := by
    rw [div_le_iff₀ long]
    linarith
  refine ⟨?_, width, height, fun w_above h_above => ?_⟩
  · have w_le : r.w ≤ 320 := by
      rw [width]
      exact max_le (by norm_num) (part (le_max_left w h))
    have h_le : r.h ≤ 320 := by
      rw [height]
      exact max_le (by norm_num) (part (le_max_right w h))
    refine le_antisymm (max_le w_le h_le) ?_
    rcases le_total w h with tall | wide
    · rw [max_eq_right tall, whole h_pos] at height
      exact le_max_of_le_right (height ▸ le_max_right 1 320)
    · rw [max_eq_left wide, whole w_pos] at width
      exact le_max_of_le_left (width ▸ le_max_right 1 320)
  · have no_floor {side scaled : ℝ} (eq : side = max 1 scaled) (above : 1 < side) :
        side = scaled := by
      rcases max_choice 1 scaled with floor | scaling
      · exact absurd (eq.trans floor) above.ne'
      · exact eq.trans scaling
    rw [no_floor width w_above, no_floor height h_above, div_div_div_cancel_right₀ long.ne',
      mul_div_mul_left _ _ (by norm_num)]

private theorem side_eq (side : Option Nat) :
    (side.map Scalar.ofNat).getD (cellSide : ℝ) = ((side.getD 320 : ℕ) : ℝ) := by
  cases side with
  | none => norm_num [cellSide]
  | some n => exact Scalar.ofNat_eq_exact n

private theorem rect_cellElement (columns place : Nat) {asset : Asset}
    (width : 0 < asset.width.getD 320) (height : 0 < asset.height.getD 320) :
    let w : ℝ := asset.width.getD 320
    let h : ℝ := asset.height.getD 320
    (cellElement columns place asset : Element ℝ).rect =
      ⟨(place % columns : ℕ) * 344, (place / columns : ℕ) * 344, max 1 (320 * w / max w h),
        max 1 (320 * h / max w h)⟩ := by
  intro w h
  have w_pos : 0 < w := Nat.cast_pos.mpr width
  have h_pos : 0 < h := Nat.cast_pos.mpr height
  have one : (1.0 : ℝ) = 1 := by norm_num
  have side : (cellSide : ℝ) = 320 := by norm_num [cellSide]
  have pitch : (cellSide + cellGap : ℝ) = 344 := by norm_num [cellSide, cellGap]
  have tall : h * min (320 / w) (320 / h) = 320 * h / max w h := by
    rw [min_comm, max_comm, mul_scale h_pos w_pos]
  show Element.fitRect (cellRect columns place asset) = _
  simp only [Element.fitRect, cellRect, side_eq, pitch, Scalar.ofNat_eq_exact,
    Scalar.smaller_eq_exact, Scalar.larger_eq_exact, one]
  rw [side, mul_scale w_pos h_pos, tall, max_comm _ 1, max_comm _ 1]

end Boxes

/-- The element shows an asset in a square of the grid: within it, and in the proportions of its
bitmap, where 320 stands in for what is not known of them. -/
structure LaidOut (asset : Asset) (square : Rect ℝ) (e : Element ℝ) : Prop where
  image : ∃ image, e.content = .image image ∧ image.IsOf asset
  within : e.rect.Within square
  proportions : e.rect.Proportioned (asset.width.getD 320 : ℕ) (asset.height.getD 320 : ℕ)

private theorem laidOut_cellElement (columns place : Nat) {asset : Asset}
    (width : 0 < asset.width.getD 320) (height : 0 < asset.height.getD 320) :
    LaidOut asset (gridSquare (place % columns) (place / columns))
      (cellElement columns place asset) := by
  have box := rect_cellElement columns place width height
  have w_pos : (0 : ℝ) < (asset.width.getD 320 : ℕ) := Nat.cast_pos.mpr width
  have h_pos : (0 : ℝ) < (asset.height.getD 320 : ℕ) := Nat.cast_pos.mpr height
  have proportions : (cellElement columns place asset : Element ℝ).rect.Proportioned
      (asset.width.getD 320 : ℕ) (asset.height.getD 320 : ℕ) := by
    rw [box]
    exact proportioned_of_sides w_pos h_pos rfl rfl
  have w_le := (le_max_left _ _).trans_eq proportions.longer
  have h_le := (le_max_right _ _).trans_eq proportions.longer
  refine ⟨⟨assetImage asset, rfl, rfl, rfl, rfl, rfl, rfl⟩, ?_, proportions⟩
  rw [box] at w_le h_le ⊢
  exact ⟨le_rfl, add_le_add_right w_le _, le_rfl, add_le_add_right h_le _⟩

/-- A catalog whose known sizes are positive is laid out whole: one element for each asset id, in
the order in which the ids come first, with keys of their own, each showing the first asset of its
id in its own square of the grid, and any two of them 24 units apart, to the side or in height. -/
theorem catalog_is_laid_out (assets : List Asset)
    (sized : ∀ asset ∈ assets, (∀ w ∈ asset.width, 1 ≤ w) ∧ ∀ h ∈ asset.height, 1 ≤ h) :
    let elements := (rebuild (Catalog.ofList assets) : Restored ℝ).scene.elements
    let ids := (assets.map Asset.id).eraseDups
    let columns := max 1 ⌈√(ids.length : ℝ)⌉₊
    elements.length = ids.length ∧ (elements.map Element.key).Nodup ∧
    (∀ (place : Nat) (id : String), ids[place]? = some id → ∃ asset e,
      assets.find? (fun a => a.id = id) = some asset ∧ elements[place]? = some e ∧
        LaidOut asset (gridSquare (place % columns) (place / columns)) e) ∧
    elements.Pairwise fun e e' => e.rect.Apart e'.rect 24 := by
  intro elements ids columns
  let catalog := Catalog.ofList assets
  have ids_eq : catalog.ids = ids := Catalog.keepsFirst_firstOfIds.map_eq_eraseDups assets
  have size : catalog.size = ids.length := by
    rw [← ids_eq, Catalog.ids, List.length_map, Catalog.size]
  have elements_eq : elements = catalog.assets.mapIdx (cellElement columns) := by
    have laid : elements = _ := elements_rebuild (Catalog.nodup_ids_ofList assets)
    rw [laid, columns_eq_ceil_sqrt, size]
  have known {asset : Asset} (mem : asset ∈ catalog.assets) :
      0 < asset.width.getD 320 ∧ 0 < asset.height.getD 320 := by
    have listed := (Catalog.keepsFirst_firstOfIds.sublist assets).subset mem
    obtain ⟨width, height⟩ := sized asset listed
    constructor
    · cases side : asset.width with
      | none => decide
      | some w => exact width w side
    · cases side : asset.height with
      | none => decide
      | some h => exact height h side
  have within {place : Nat} {e : Element ℝ} (there : elements[place]? = some e) :
      e.rect.Within (gridSquare (place % columns) (place / columns)) := by
    rw [elements_eq, List.getElem?_mapIdx] at there
    obtain ⟨asset, found, rfl⟩ := Option.map_eq_some_iff.mp there
    obtain ⟨width, height⟩ := known (List.mem_of_getElem? found)
    exact (laidOut_cellElement columns place width height).within
  refine ⟨?_, Scene.keys_ofElements_nodup _ _, fun place id at_place => ?_, ?_⟩
  · rw [elements_eq, List.length_mapIdx, ← size, Catalog.size]
  · rw [← ids_eq, Catalog.ids, List.getElem?_map] at at_place
    obtain ⟨asset, found, rfl⟩ := Option.map_eq_some_iff.mp at_place
    have mem := List.mem_of_getElem? found
    obtain ⟨width, height⟩ := known mem
    refine ⟨asset, cellElement columns place asset,
      Catalog.keepsFirst_firstOfIds.find?_of_mem mem, ?_,
      laidOut_cellElement columns place width height⟩
    rw [elements_eq, List.getElem?_mapIdx, found]
    rfl
  · rw [List.pairwise_iff_getElem]
    intro place other below below' lt
    have here := within (List.getElem?_eq_getElem below)
    have there := within (List.getElem?_eq_getElem below')
    exact (apart_gridSquare (square_ne lt.ne)).mono here there

/-- A fox, an owl of unknown width, another bitmap by the name of the fox, and a thin reed. -/
def meadowAssets : List Asset :=
  [⟨"fox", "f0", "fox.png", some 640, some 480⟩, ⟨"owl", "0e", "owl.png", none, some 160⟩,
    ⟨"fox", "f1", "vixen.png", some 9, some 9⟩, ⟨"reed", "4e", "reed.png", some 2, some 9000⟩]

theorem meadow_is_laid_out :
    let elements := (rebuild (Catalog.ofList meadowAssets) : Restored ℝ).scene.elements
    (∀ asset ∈ meadowAssets, (∀ w ∈ asset.width, 1 ≤ w) ∧ ∀ h ∈ asset.height, 1 ≤ h) ∧
      elements.length = 3 ∧
      (∃ fox image, elements[0]? = some fox ∧ fox.content = .image image ∧
        image.src = "fox.png" ∧ fox.rect.w = 320 ∧ fox.rect.h = 240) ∧
      (∃ reed, elements[2]? = some reed ∧ reed.rect.w = 1 ∧ reed.rect.h = 320) ∧
      elements.Pairwise fun e e' => e.rect.Apart e'.rect 24 := by
  have sized : ∀ asset ∈ meadowAssets, (∀ w ∈ asset.width, 1 ≤ w) ∧ ∀ h ∈ asset.height, 1 ≤ h := by
    simp [meadowAssets]
  have ids : (meadowAssets.map Asset.id).eraseDups = ["fox", "owl", "reed"] := by decide
  obtain ⟨length, -, shown, apart⟩ := catalog_is_laid_out meadowAssets sized
  rw [ids] at length shown
  obtain ⟨asset, fox, first, here, ⟨⟨image, content, of⟩, -, sides⟩⟩ := shown 0 "fox" rfl
  obtain rfl : ⟨"fox", "f0", "fox.png", some 640, some 480⟩ = asset := by
    simpa [meadowAssets] using first
  obtain ⟨asset', reed, last, there, ⟨-, -, sides'⟩⟩ := shown 2 "reed" rfl
  obtain rfl : ⟨"reed", "4e", "reed.png", some 2, some 9000⟩ = asset' := by
    simpa [meadowAssets] using last
  refine ⟨sized, length, ⟨fox, image, here, content, of.src, ?_, ?_⟩, ⟨reed, there, ?_, ?_⟩, apart⟩
  · rw [sides.width]
    norm_num
  · rw [sides.height]
    norm_num
  · rw [sides'.width]
    norm_num
  · rw [sides'.height]
    norm_num

end Document

end PromptCanvas

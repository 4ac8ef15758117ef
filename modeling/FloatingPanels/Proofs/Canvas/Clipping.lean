import FloatingPanels.Proofs.Canvas.Stroke
import Mathlib.Data.List.ProdSigma
import Mathlib.Data.List.Nodup
/-!
# Clipping is exact

Clipping goes from signed numbers to words of 16 bits and back to cells. On an area that
ends within the limit of cells nothing is lost on this way: the clip of a rectangle is what
it has in common with the area, and there is none just if they have no point in common.
`Canvas.fill_exact` draws from it what a fill does to a canvas. It is the same as to draw
the cells of the clip one by one, row by row, and these are the cells of the canvas that the
rectangle covers, each of them once.

In coordinates there is a clip, and a canvas after the fill, just if the right and the lower
end of the rectangle are coordinates.
-/

namespace FloatingPanels

/-! ## The clip of a rectangle -/

/-- What a rectangle has in common with an area, if it is anything. -/
structure Rect.ClipsExactly (r : Rect) (a : CellArea) (clip : Option CellArea) : Prop where
  isSome : clip.isSome ↔ ∃ p, r.contains p ∧ a.toRect.contains p
  contains : ∀ b, clip = some b → ∀ x y : Nat, b.contains x y ↔ r.contains ⟨x, y⟩ ∧ a.contains x y
  /-- None of the four words that it is made of starts over. -/
  words : clip.isSome →
    ∀ n ∈ [(r.meet a.toRect).left, (r.meet a.toRect).top, (r.meet a.toRect).width, (r.meet a.toRect).height],
      (CellArea.word n : Int) = n
  /-- None of its sides is cut off. -/
  sides : ∀ b, clip = some b → b.toRect = r.meet a.toRect
  fits : ∀ b, clip = some b → b.Fits

namespace Rect

variable {r : Rect} {a b : CellArea} {x y : Nat}

theorem contains_iff_of_clip (ha : a.Fits) (h : r.clip a = some b) :
    b.contains x y ↔ r.contains ⟨x, y⟩ ∧ a.contains x y := by
  rw [← CellArea.contains_toRect, toRect_of_clip ha h, contains_meet, CellArea.contains_toRect]

theorem clip_exact (r : Rect) (ha : a.Fits) : r.ClipsExactly a (r.clip a) where
  isSome := by
    rw [isSome_clip, ← exists_contains_iff]
    exact exists_congr fun p => contains_meet
  contains b h x y := contains_iff_of_clip ha h
  words h := word_meet ha (isSome_clip.1 h)
  sides b h := toRect_of_clip ha h
  fits b h := by
    obtain ⟨-, -, hright, hbottom⟩ := meet_bounds r ha
    rw [← toRect_of_clip ha h] at hright hbottom
    exact ⟨Int.ofNat_le.1 hright, Int.ofNat_le.1 hbottom⟩

/-! ### In coordinates -/

theorem endsInRange_of_clip? {clip : Option CellArea} (h : r.clip? a = some clip) : r.EndsInRange := by
  simp only [clip?, Option.bind_eq_bind, Option.bind_eq_some_iff, right?_eq_some_iff, bottom?_eq_some_iff] at h
  obtain ⟨_, ⟨hright, -⟩, _, -, _, ⟨hbottom, -⟩, -⟩ := h
  exact ⟨hright, hbottom⟩

/-- Nothing else of a clip may overflow. -/
theorem clip?_eq (ha : a.Fits) (h : r.EndsInRange) : r.clip? a = some (r.clip a) := by
  obtain ⟨hright, hbottom⟩ := ha
  have hends : Coordinate.InRange a.right ∧ Coordinate.InRange a.bottom := by
    simp only [CellArea.limit, Coordinate.inRange_iff] at *
    omega
  have hsides : r.right? = some r.right ∧ r.bottom? = some r.bottom ∧
      a.toRect.right? = some (a.right : Int) ∧ a.toRect.bottom? = some (a.bottom : Int) :=
    ⟨Coordinate.of?_eq h.1, Coordinate.of?_eq h.2, Coordinate.of?_eq hends.1, Coordinate.of?_eq hends.2⟩
  simp only [clip?, clip, hsides, Option.bind_eq_bind, Option.bind_some]
  split
  · rfl
  · rename_i hspan
    -- Both ends lie on the canvas by now, so their difference is small.
    have hlengths : Coordinate.InRange (min r.right a.right - max r.left a.x) ∧
        Coordinate.InRange (min r.bottom a.bottom - max r.top a.y) := by
      simp only [Bool.or_eq_true, decide_eq_true_eq] at hspan
      simp only [Coordinate.inRange_iff] at *
      omega
    simp only [Coordinate.of?_eq hlengths.1, Coordinate.of?_eq hlengths.2, Option.bind_some]

theorem clip?_eq_some_iff (ha : a.Fits) {clip : Option CellArea} :
    r.clip? a = some clip ↔ r.EndsInRange ∧ r.clip a = clip := by
  constructor
  · intro h
    have hends := endsInRange_of_clip? h
    exact ⟨hends, Option.some.inj ((clip?_eq ha hends).symm.trans h)⟩
  · rintro ⟨hends, rfl⟩
    exact clip?_eq ha hends

end Rect

/-- In an area that ends past the limit, a clip is cut off there. -/
example : Rect.clip ⟨65530, 0, 10, 1⟩ ⟨65530, 0, 10, 1⟩ = some ⟨65530, 0, 5, 1⟩ := by decide

/-! ## Cell by cell -/

/-- The cells of an area that a rectangle covers, row by row from the top. -/
def Rect.cellsIn (r : Rect) (a : CellArea) : List (Nat × Nat) := (r.clip a).elim [] CellArea.cells

theorem CellArea.cells_eq (a : CellArea) :
    a.cells = (List.range' a.y a.height).product (List.range' a.x a.width) := rfl

theorem CellArea.mem_cells {a : CellArea} {x y : Nat} : (y, x) ∈ a.cells ↔ a.contains x y := by
  rw [cells_eq, List.pair_mem_product, List.mem_range'_1, List.mem_range'_1, contains_iff, and_comm, and_assoc]
  rfl

theorem CellArea.nodup_cells (a : CellArea) : a.cells.Nodup :=
  List.Nodup.product List.nodup_range' List.nodup_range'

theorem Rect.mem_cellsIn {r : Rect} {a : CellArea} (ha : a.Fits) {x y : Nat} :
    (y, x) ∈ r.cellsIn a ↔ r.contains ⟨x, y⟩ ∧ a.contains x y := by
  rw [cellsIn]
  cases hclip : r.clip a with
  | none =>
    refine iff_of_false List.not_mem_nil fun ⟨hr, hin⟩ => ?_
    have hany := contains_clip (r := r) ha hin
    rw [hclip, hr] at hany
    cases hany
  | some b => exact CellArea.mem_cells.trans (contains_iff_of_clip ha hclip)

theorem Rect.nodup_cellsIn (r : Rect) (a : CellArea) : (r.cellsIn a).Nodup := by
  rw [cellsIn]
  cases r.clip a with
  | none => exact List.nodup_nil
  | some b => exact b.nodup_cells

/-- To draw a cell again changes nothing. -/
theorem Cell.draw_draw (c : Cell) (symbol : Char) (s : Style) : (c.draw symbol s).draw symbol s = c.draw symbol s := by
  obtain ⟨fg, bg, bold⟩ := s
  cases fg <;> cases bg <;> simp [draw]

namespace Canvas

variable {c : Canvas} {x y : Nat}

theorem area_modify (c : Canvas) (x y : Nat) (f : Cell → Cell) : (c.modify x y f).area = c.area := by
  unfold modify
  split <;> rfl

theorem mapIdx_id {α : Type} (l : List α) : (l.mapIdx fun _ a => a) = l :=
  List.mapIdx_eq_iff.2 fun _ => Option.map_id'.symm

theorem mapCells_id (c : Canvas) : (c.mapCells fun _ _ cell => cell) = c := by
  simp only [mapCells, mapIdx_id]

theorem mapCells_mapCells (c : Canvas) (f g : Nat → Nat → Cell → Cell) :
    (c.mapCells f).mapCells g = c.mapCells fun x y cell => g x y (f x y cell) := by
  simp only [mapCells, List.mapIdx_mapIdx, Function.comp_def]

theorem modify_eq_mapCells (h : c.area.contains x y) (f : Cell → Cell) :
    c.modify x y f = c.mapCells fun i j cell => if (j, i) = (y, x) then f cell else cell := by
  obtain ⟨hx, -, hy, -⟩ := CellArea.contains_iff.1 h
  rw [modify, if_pos h, mapCells]
  congr 1
  refine (List.mapIdx_eq_iff.2 fun j => ?_).symm
  rw [List.getElem?_modify, Option.map_eq_map]
  congr 1
  funext row
  -- Only row `y` has the cell. In all others nothing is drawn.
  by_cases hj : y - c.area.y = j
  · rw [if_pos hj]
    refine (List.mapIdx_eq_iff.2 fun i => ?_).symm
    have hiff : x - c.area.x = i ↔ (c.area.y + j, c.area.x + i) = (y, x) := by
      rw [Prod.mk.injEq]
      omega
    simp only [List.getElem?_modify, Option.map_eq_map, hiff]
  · rw [if_neg hj]
    have hne : ∀ i, (c.area.y + j, c.area.x + i) ≠ (y, x) := by
      intro i heq
      rw [Prod.mk.injEq] at heq
      omega
    simp only [if_neg (hne _), mapIdx_id]

/-- Cells of the canvas that are drawn one after the other are drawn once. -/
theorem drawEach_eq_mapCells (s : Stroke) {ps : List (Nat × Nat)} (h : ∀ x y, (y, x) ∈ ps → c.area.contains x y) :
    c.drawEach s ps =
      c.mapCells fun x y cell => if (y, x) ∈ ps then cell.draw (s.symbol ⟨x, y⟩) s.style else cell := by
  -- The cells that follow are drawn on another canvas, so the induction is for all of them.
  induction ps generalizing c with
  | nil => exact (mapCells_id c).symm
  | cons p ps ih =>
    obtain ⟨y, x⟩ := p
    have hfirst := h x y List.mem_cons_self
    have hrest : ∀ i j, (j, i) ∈ ps → (c.modify x y fun cell => cell.draw (s.symbol ⟨x, y⟩) s.style).area.contains i j := by
      intro i j hp
      rw [area_modify]
      exact h i j (List.mem_cons_of_mem _ hp)
    refine (ih hrest).trans ?_
    rw [modify_eq_mapCells hfirst, mapCells_mapCells]
    congr 1
    funext i j cell
    by_cases hp : (j, i) = (y, x)
    · obtain ⟨rfl, rfl⟩ := Prod.mk.inj hp
      rw [if_pos rfl, if_pos List.mem_cons_self, Cell.draw_draw, ite_self]
    · rw [if_neg hp]
      simp only [List.mem_cons, hp, false_or]

/-- A stroke draws the cells that it covers one by one. -/
theorem stroke_eq_drawEach (hc : c.area.Fits) (s : Stroke) : c.stroke s = c.drawEach s (s.area.cellsIn c.area) := by
  rw [drawEach_eq_mapCells s fun x y hp => ((Rect.mem_cellsIn hc).1 hp).2, stroke, Rect.cellsIn]
  cases s.area.clip c.area with
  | none => exact (mapCells_id c).symm
  | some b => simp only [Option.elim_some, CellArea.mem_cells]

theorem fill?_eq_some_iff (hc : c.area.Fits) {r : Rect} {symbol : Char} {style : Style} {c' : Canvas} :
    c.fill? r symbol style = some c' ↔ r.EndsInRange ∧ c.stroke (.fill r symbol style) = c' := by
  rw [stroke_eq_drawEach hc, fill?, Option.bind_eq_bind, Option.bind_eq_some_iff]
  simp only [Rect.clip?_eq_some_iff hc, and_assoc, exists_and_left, exists_eq_left']
  refine and_congr_right fun _ => ?_
  rw [Stroke.fill, Rect.cellsIn]
  cases r.clip c.area with
  | none => exact Option.some_inj
  | some area => exact Option.some_inj

/-- A fill, which makes `c'` of a canvas, draws the cells that a rectangle covers, and no
others. -/
structure FillsExactly (c : Canvas) (r : Rect) (symbol : Char) (style : Style) (c' : Canvas) : Prop where
  /-- It draws some cells one after the other. -/
  drawn : c' = c.drawEach (.fill r symbol style) (r.cellsIn c.area)
  mem : ∀ x y : Nat, (y, x) ∈ r.cellsIn c.area ↔ r.contains ⟨x, y⟩ ∧ c.area.contains x y
  once : (r.cellsIn c.area).Nodup
  area : c'.area = c.area
  covered : ∀ x y : Nat, r.contains ⟨x, y⟩ → c'.cell? x y = (c.cell? x y).map fun cell => cell.draw symbol style
  uncovered : ∀ x y : Nat, ¬ r.contains ⟨x, y⟩ → c'.cell? x y = c.cell? x y

theorem stroke_fillsExactly (hc : c.area.Fits) (r : Rect) (symbol : Char) (style : Style) :
    c.FillsExactly r symbol style (c.stroke (.fill r symbol style)) := by
  constructor
  · exact stroke_eq_drawEach hc _
  · exact fun x y => Rect.mem_cellsIn hc
  · exact r.nodup_cellsIn c.area
  · exact area_stroke c _
  · intro x y hp
    have hon : (fun cell => (Stroke.fill r symbol style).on ⟨x, y⟩ cell) = fun cell => cell.draw symbol style :=
      funext fun _ => if_pos hp
    rw [cell?_stroke hc, hon]
  · intro x y hp
    have hon : (fun cell => (Stroke.fill r symbol style).on ⟨x, y⟩ cell) = fun cell => cell := funext fun _ => if_neg hp
    rw [cell?_stroke hc, hon, Option.map_id']

/-- Clipping a rectangle to a canvas within the limit, and filling it there, has a result just
if the ends of the rectangle are coordinates. Both are then exact. -/
theorem fill_exact (hc : c.area.Fits) (r : Rect) (symbol : Char) (style : Style) :
    (((r.clip? c.area).isSome ↔ r.EndsInRange) ∧ ((c.fill? r symbol style).isSome ↔ r.EndsInRange)) ∧
      (∀ clip, r.clip? c.area = some clip → r.clip c.area = clip ∧ r.ClipsExactly c.area clip) ∧
      ∀ c', c.fill? r symbol style = some c' →
        c.stroke (.fill r symbol style) = c' ∧ c.FillsExactly r symbol style c' := by
  refine ⟨⟨?_, ?_⟩, fun clip h => ?_, fun c' h => ?_⟩
  · exact Coordinate.isSome_iff fun _ => Rect.clip?_eq_some_iff hc
  · exact Coordinate.isSome_iff fun _ => fill?_eq_some_iff hc
  · obtain ⟨-, rfl⟩ := (Rect.clip?_eq_some_iff hc).1 h
    exact ⟨rfl, r.clip_exact hc⟩
  · obtain ⟨-, rfl⟩ := (fill?_eq_some_iff hc).1 h
    exact ⟨rfl, stroke_fillsExactly hc r symbol style⟩

/-- A rectangle that is in the range of coordinates, but for its right end. -/
example : (blank ⟨0, 0, 80, 24⟩).fill? ⟨10, 0, 0x7FFFFFFF, 5⟩ 'x' {} = none := by decide

/-- A canvas that ends at the limit, and a rectangle that begins left of the page and ends
past the limit. -/
theorem fill_exact_limit :
    let c := blank ⟨65530, 1, 5, 2⟩
    let r : Rect := ⟨-3, 2, 70000, 9⟩
    let c' := c.stroke (.fill r 'x' {})
    c.area.Fits ∧ (r.clip? c.area = some (some ⟨65530, 2, 5, 1⟩) ∧ r.ClipsExactly c.area (some ⟨65530, 2, 5, 1⟩)) ∧
      (c.fill? r 'x' {} = some c' ∧ c.FillsExactly r 'x' {} c') ∧ c'.text = ["     ", "xxxxx"] := by
  intro c r c'
  have hfits : c.area.Fits := ⟨by decide, by decide⟩
  have hclip : r.clip? c.area = some (some ⟨65530, 2, 5, 1⟩) := by decide
  have hfill : c.fill? r 'x' {} = some c' := by decide
  obtain ⟨-, hclips, hfills⟩ := fill_exact hfits r 'x' {}
  exact ⟨hfits, ⟨hclip, (hclips _ hclip).2⟩, ⟨hfill, (hfills _ hfill).2⟩, by decide⟩

end Canvas

end FloatingPanels

import FloatingPanels.Canvas.Basic
import FloatingPanels.Proofs.Rect
/-!
# What strokes do to a cell

A stroke draws exactly the cells that its rectangle covers, as long as the canvas ends
within the limit of cells. So painting can be told for each cell by itself: its symbol and
its colours are those of the topmost stroke that covers it and names them, and it is bold
if any stroke that covers it is.
-/

namespace FloatingPanels

/-! ## Clipping -/

theorem CellArea.contains_iff {a : CellArea} {x y : Nat} :
    a.contains x y ↔ a.x ≤ x ∧ x < a.right ∧ a.y ≤ y ∧ y < a.bottom := by
  simp only [contains, Bool.and_eq_true, decide_eq_true_eq, and_assoc]

/-- The area ends within the limit of cells. -/
def CellArea.Fits (a : CellArea) : Prop := a.right ≤ limit ∧ a.bottom ≤ limit

/-- A canvas that was made blank ends within the limit, if it has a cell at all. -/
theorem CellArea.fits_bounded {a : CellArea} {x y : Nat} (h : a.bounded.contains x y) : a.bounded.Fits := by
  simp only [contains_iff, Fits, bounded, right, bottom] at h ⊢
  omega

theorem CellArea.contains_toRect {a : CellArea} {x y : Nat} : a.toRect.contains ⟨x, y⟩ ↔ a.contains x y := by
  rw [Rect.contains_iff, contains_iff]
  simp only [toRect, Rect.right, Rect.bottom, right, bottom]
  omega

theorem CellArea.cast_word {n : Int} (h : 0 ≤ n) (h' : n ≤ limit) : (word n : Int) = n := by
  simp only [word, limit] at h' ⊢
  omega

namespace Rect

variable {r : Rect} {a b : CellArea}

/-- A clip is made of four words, those of the common part. -/
theorem clip_eq (r : Rect) (a : CellArea) :
    r.clip a =
      if (r.meet a.toRect).isEmpty then none
      else some (CellArea.bounded ⟨CellArea.word (r.meet a.toRect).left, CellArea.word (r.meet a.toRect).top,
        CellArea.word (r.meet a.toRect).width, CellArea.word (r.meet a.toRect).height⟩) := by
  have hright : a.toRect.right = a.right := rfl
  have hbottom : a.toRect.bottom = a.bottom := rfl
  have hsub : ∀ m n : Int, m - n ≤ 0 ↔ m ≤ n := by omega
  simp only [clip, isEmpty, meet, hright, hbottom, hsub]
  rfl

theorem isSome_clip : (r.clip a).isSome ↔ (r.meet a.toRect).isEmpty = false := by
  rw [clip_eq]
  cases (r.meet a.toRect).isEmpty <;> simp

/-- What a rectangle shares with an area within the limit lies within the limit. -/
theorem meet_bounds (r : Rect) (ha : a.Fits) :
    0 ≤ (r.meet a.toRect).left ∧ 0 ≤ (r.meet a.toRect).top ∧
      (r.meet a.toRect).right ≤ CellArea.limit ∧ (r.meet a.toRect).bottom ≤ CellArea.limit := by
  obtain ⟨hright, hbottom⟩ := ha
  simp only [meet, CellArea.toRect, right, bottom, CellArea.right, CellArea.bottom] at *
  omega

/-- So none of the words that a clip is made of starts over. -/
theorem word_meet (ha : a.Fits) (h : (r.meet a.toRect).isEmpty = false) :
    ∀ n ∈ [(r.meet a.toRect).left, (r.meet a.toRect).top, (r.meet a.toRect).width, (r.meet a.toRect).height],
      (CellArea.word n : Int) = n := by
  obtain ⟨hleft, htop, hright, hbottom⟩ := meet_bounds r ha
  obtain ⟨hwidth, hheight⟩ := isEmpty_eq_false.1 h
  rw [right] at hright
  rw [bottom] at hbottom
  intro n hn
  simp only [List.mem_cons, List.not_mem_nil, or_false] at hn
  apply CellArea.cast_word <;> omega

/-- Nor is a side of it cut off. -/
theorem toRect_of_clip (ha : a.Fits) (h : r.clip a = some b) : b.toRect = r.meet a.toRect := by
  have hempty : (r.meet a.toRect).isEmpty = false := isSome_clip.1 (h ▸ rfl)
  have hwords := word_meet ha hempty
  obtain ⟨-, -, hright, hbottom⟩ := meet_bounds r ha
  rw [clip_eq, hempty, if_neg Bool.false_ne_true, Option.some.injEq] at h
  subst h
  generalize r.meet a.toRect = m at *
  obtain ⟨left, top, width, height⟩ := m
  simp only [List.forall_mem_cons] at hwords
  obtain ⟨hleft, htop, hwidth, hheight, -⟩ := hwords
  simp only [right, bottom] at hright hbottom
  simp only [CellArea.toRect, CellArea.bounded, mk.injEq]
  omega

/-- Clipping loses no cell of the area and adds none. -/
theorem contains_clip (ha : a.Fits) {x y : Nat} (h : a.contains x y) :
    (r.clip a).any (·.contains x y) = r.contains ⟨x, y⟩ := by
  have hmeet : (r.meet a.toRect).contains ⟨x, y⟩ ↔ r.contains ⟨x, y⟩ := by
    rw [contains_meet, CellArea.contains_toRect, and_iff_left h]
  rw [Bool.eq_iff_iff, ← hmeet]
  cases hclip : r.clip a with
  | none =>
    refine iff_of_false Bool.false_ne_true fun hp => ?_
    have hsome := isSome_clip.2 (isEmpty_of_contains hp)
    rw [hclip] at hsome
    cases hsome
  | some b => rw [Option.any_some, ← toRect_of_clip ha hclip, CellArea.contains_toRect]

end Rect

/-! ## One stroke -/

namespace Stroke

def covers (s : Stroke) (p : Point) : Bool := s.area.contains p

/-- What a stroke makes of the cell at a point. -/
def on (p : Point) (c : Cell) (s : Stroke) : Cell := if s.covers p then c.draw (s.symbol p) s.style else c

end Stroke

attribute [ext] Cell

/-- The cell at a point after these strokes, the first of them lowest. -/
def Cell.paint (p : Point) (c : Cell) (ss : List Stroke) : Cell := ss.foldl (Stroke.on p) c

namespace Canvas

theorem cell?_mapCells (c : Canvas) (f : Nat → Nat → Cell → Cell) (x y : Nat) :
    (c.mapCells f).cell? x y = (c.cell? x y).map (f x y) := by
  unfold cell? mapCells
  by_cases h : c.area.contains x y
  · have hin := CellArea.contains_iff.1 h
    have hx : c.area.x + (x - c.area.x) = x := by omega
    have hy : c.area.y + (y - c.area.y) = y := by omega
    simp only [h, if_true, List.getElem?_mapIdx, hy]
    cases c.rows[y - c.area.y]? with
    | none => rfl
    | some row => simp only [Option.map_some, Option.bind_some, List.getElem?_mapIdx, hx]
  · simp only [h, Bool.false_eq_true, if_false, Option.map_none]

theorem area_stroke (c : Canvas) (s : Stroke) : (c.stroke s).area = c.area := by
  unfold stroke
  split <;> rfl

theorem contains_of_cell? {c : Canvas} {x y : Nat} {cell : Cell} (h : c.cell? x y = some cell) :
    c.area.contains x y := by
  unfold cell? at h
  split at h
  · assumption
  · cases h

theorem cell?_stroke {c : Canvas} (hc : c.area.Fits) (s : Stroke) (x y : Nat) :
    (c.stroke s).cell? x y = (c.cell? x y).map fun cell => s.on ⟨x, y⟩ cell := by
  cases hcell : c.cell? x y with
  | none =>
    unfold stroke
    split
    · rw [hcell]
      rfl
    · rw [cell?_mapCells, hcell]
      rfl
  | some cell =>
    have hclip := Rect.contains_clip (r := s.area) hc (contains_of_cell? hcell)
    rw [Option.map_some, Stroke.on, Stroke.covers, ← hclip, stroke]
    cases s.area.clip c.area with
    | none => exact hcell
    | some area => rw [cell?_mapCells, hcell, Option.map_some, Option.any_some]

theorem cell?_paint {c : Canvas} (hc : c.area.Fits) (ss : List Stroke) (x y : Nat) :
    (c.paint ss).cell? x y = (c.cell? x y).map (·.paint ⟨x, y⟩ ss) := by
  induction ss generalizing c with
  | nil => exact Option.map_id'.symm
  | cons s ss ih =>
    have hs : (c.stroke s).area.Fits := by rwa [area_stroke]
    refine (ih hs).trans ?_
    rw [cell?_stroke hc, Option.map_map]
    rfl

/-- Every cell of a blank canvas is blank. -/
theorem cell?_blank (area : CellArea) {x y : Nat} (h : area.bounded.contains x y) :
    (blank area).cell? x y = some {} := by
  have hin := CellArea.contains_iff.1 h
  simp only [CellArea.right, CellArea.bottom] at hin
  have hrow : y - area.bounded.y < area.bounded.height := by omega
  have hcol : x - area.bounded.x < area.bounded.width := by omega
  simp only [blank, cell?, h, if_true, List.getElem?_replicate, hrow, hcol, Option.bind_some]

end Canvas

/-! ## The topmost stroke -/

namespace Stroke

variable {α : Type}

/-- What the topmost stroke at a point names, of those that cover it and name anything. -/
def top (named : Stroke → Option α) (p : Point) (ss : List Stroke) : Option α :=
  ss.reverse.findSome? fun s => if s.covers p then named s else none

theorem top_append (named : Stroke → Option α) (p : Point) (ss ss' : List Stroke) :
    top named p (ss ++ ss') = (top named p ss').or (top named p ss) := by
  rw [top, List.reverse_append, List.findSome?_append]
  rfl

theorem top_cons (named : Stroke → Option α) (p : Point) (s : Stroke) (ss : List Stroke) :
    top named p (s :: ss) = (top named p ss).or (if s.covers p then named s else none) := by
  rw [← List.singleton_append, top_append]
  congr 1
  simp [top]

theorem top_isSome {named : Stroke → Option α} {p : Point} {ss : List Stroke} :
    (top named p ss).isSome ↔ ∃ s ∈ ss, s.covers p ∧ (named s).isSome := by
  simp only [top, List.findSome?_isSome_iff, List.mem_reverse]
  refine exists_congr fun s => and_congr_right fun _ => ?_
  cases s.covers p <;> simp

theorem top_eq_none {named : Stroke → Option α} {p : Point} {ss : List Stroke} (h : ∀ s ∈ ss, s.covers p = false) :
    top named p ss = none := by
  refine List.findSome?_eq_none_iff.2 fun s hs => ?_
  rw [h s (List.mem_reverse.1 hs), if_neg Bool.false_ne_true]

end Stroke

namespace Cell

open Stroke (top)

variable (p : Point) (c : Cell) (ss : List Stroke)

theorem paint_append (ss' : List Stroke) : c.paint p (ss ++ ss') = (c.paint p ss).paint p ss' := List.foldl_append

/-- Strokes that lie elsewhere leave the cell as it was. -/
theorem paint_eq_self {p : Point} {c : Cell} {ss : List Stroke} (h : ∀ s ∈ ss, s.covers p = false) : c.paint p ss = c := by
  induction ss generalizing c with
  | nil => rfl
  | cons s ss ih =>
    rw [List.forall_mem_cons] at h
    refine (ih h.2).trans ?_
    rw [Stroke.on, h.1, if_neg Bool.false_ne_true]

theorem symbol_paint : (c.paint p ss).symbol = (top (fun s => some (s.symbol p)) p ss).getD c.symbol := by
  induction ss generalizing c with
  | nil => rfl
  | cons s ss ih =>
    refine (ih (s.on p c)).trans ?_
    rw [Stroke.top_cons, Stroke.on]
    split <;> cases top (fun s => some (s.symbol p)) p ss <;> rfl

theorem fg_paint : (c.paint p ss).fg = (top (·.style.fg) p ss).getD c.fg := by
  induction ss generalizing c with
  | nil => rfl
  | cons s ss ih =>
    refine (ih (s.on p c)).trans ?_
    rw [Stroke.top_cons, Stroke.on]
    split <;> cases top (·.style.fg) p ss <;> rfl

theorem bg_paint : (c.paint p ss).bg = (top (·.style.bg) p ss).getD c.bg := by
  induction ss generalizing c with
  | nil => rfl
  | cons s ss ih =>
    refine (ih (s.on p c)).trans ?_
    rw [Stroke.top_cons, Stroke.on]
    split <;> cases top (·.style.bg) p ss <;> rfl

theorem bold_paint : (c.paint p ss).bold = (c.bold || ss.any fun s => s.covers p && s.style.bold) := by
  induction ss generalizing c with
  | nil => exact (Bool.or_false _).symm
  | cons s ss ih =>
    refine (ih (s.on p c)).trans ?_
    rw [List.any_cons, ← Bool.or_assoc, Stroke.on]
    cases s.covers p with
    | false => rw [if_neg Bool.false_ne_true, Bool.false_and, Bool.or_false]
    | true => rfl

/-! ### Two cells under the same strokes -/

variable (c' : Cell)

/-- Strokes that are painted over two cells leave them different colours only where they
name none. -/
theorem fg_paint_eq_iff :
    (c.paint p ss).fg = (c'.paint p ss).fg ↔ (∃ s ∈ ss, s.covers p ∧ s.style.fg.isSome) ∨ c.fg = c'.fg := by
  rw [fg_paint, fg_paint, ← Stroke.top_isSome]
  cases top (·.style.fg) p ss <;> simp

theorem bg_paint_eq_iff :
    (c.paint p ss).bg = (c'.paint p ss).bg ↔ (∃ s ∈ ss, s.covers p ∧ s.style.bg.isSome) ∨ c.bg = c'.bg := by
  rw [bg_paint, bg_paint, ← Stroke.top_isSome]
  cases top (·.style.bg) p ss <;> simp

theorem symbol_paint_eq {p : Point} {ss : List Stroke} (h : ∃ s ∈ ss, s.covers p) :
    (c.paint p ss).symbol = (c'.paint p ss).symbol := by
  obtain ⟨s, hs, hp⟩ := h
  have htop : (top (fun s => some (s.symbol p)) p ss).isSome := Stroke.top_isSome.2 ⟨s, hs, hp, rfl⟩
  obtain ⟨symbol, htop⟩ := Option.isSome_iff_exists.1 htop
  rw [symbol_paint, symbol_paint, htop]
  rfl

theorem bold_paint_eq {c c' : Cell} (h : c.bold = c'.bold) : (c.paint p ss).bold = (c'.paint p ss).bold := by
  rw [bold_paint, bold_paint, h]

end Cell

end FloatingPanels

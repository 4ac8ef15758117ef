import FloatingPanels.Geometry
/-!
# Canvases

A canvas is a rectangle of character cells. It is painted with strokes: each
gives a rectangle of the page new characters and a style, as far as the canvas
reaches. A style changes the colours that it names, and may add bold type.

What is computed with a rectangle of the page are coordinates as long as its
right and its lower end are. Otherwise `Rect.clip?` and `Canvas.fill?` have no
result.
-/

namespace FloatingPanels

inductive Color where
  | reset | darkGray | white | blue | yellow | red | cyan
  deriving DecidableEq, Repr, Inhabited

structure Style where
  fg : Option Color := none
  bg : Option Color := none
  bold : Bool := false
  deriving DecidableEq, Repr, Inhabited

structure Cell where
  symbol : Char := ' '
  fg : Color := .reset
  bg : Color := .reset
  bold : Bool := false
  deriving DecidableEq, Repr, Inhabited

def Cell.draw (c : Cell) (symbol : Char) (s : Style) : Cell :=
  ⟨symbol, s.fg.getD c.fg, s.bg.getD c.bg, c.bold || s.bold⟩

/-! ## Areas of cells -/

structure CellArea where
  x : Nat
  y : Nat
  width : Nat
  height : Nat
  deriving DecidableEq, Repr, Inhabited

namespace CellArea

/-- No cell lies at this coordinate or beyond. -/
def limit : Nat := 65535

/-- An area cut off where its right or lower end passes the limit. -/
def bounded (a : CellArea) : CellArea :=
  { a with width := min a.width (limit - a.x), height := min a.height (limit - a.y) }

def right (a : CellArea) : Nat := a.x + a.width

def bottom (a : CellArea) : Nat := a.y + a.height

def contains (a : CellArea) (x y : Nat) : Bool :=
  a.x ≤ x && x < a.right && a.y ≤ y && y < a.bottom

def meet (a b : CellArea) : CellArea :=
  let x := max a.x b.x
  let y := max a.y b.y
  ⟨x, y, min a.right b.right - x, min a.bottom b.bottom - y⟩

def toRect (a : CellArea) : Rect := ⟨a.x, a.y, a.width, a.height⟩

/-- The cells of an area, by row and column, row by row from the top. -/
def cells (a : CellArea) : List (Nat × Nat) :=
  (List.range' a.y a.height).flatMap fun y => (List.range' a.x a.width).map fun x => (y, x)

end CellArea

/-- A coordinate or a length as a word of 16 bits: past the largest word it starts
over. -/
def CellArea.word (n : Int) : Nat := n.toNat % 65536

/-- The part of an area of cells that a rectangle of the page covers, if there
is any. It is exact as long as the area ends within the limit of cells. -/
def Rect.clip (r : Rect) (bounds : CellArea) : Option CellArea :=
  let left := max r.left bounds.x
  let top := max r.top bounds.y
  let right := min r.right bounds.right
  let bottom := min r.bottom bounds.bottom
  if right ≤ left || bottom ≤ top then none
  else
    some (CellArea.bounded ⟨CellArea.word left, CellArea.word top,
      CellArea.word (right - left), CellArea.word (bottom - top)⟩)

def Rect.clip? (r : Rect) (bounds : CellArea) : Option (Option CellArea) := do
  let left := max r.left bounds.x
  let top := max r.top bounds.y
  let right := min (← r.right?) (← bounds.toRect.right?)
  let bottom := min (← r.bottom?) (← bounds.toRect.bottom?)
  if right ≤ left || bottom ≤ top then some none
  else do
    let width ← Coordinate.of? (right - left)
    let height ← Coordinate.of? (bottom - top)
    some (some (CellArea.bounded ⟨CellArea.word left, CellArea.word top,
      CellArea.word width, CellArea.word height⟩))

/-! ## Strokes -/

/-- New characters and a style for a rectangle of the page. -/
structure Stroke where
  area : Rect
  symbol : Point → Char
  style : Style

namespace Stroke

def fill (area : Rect) (c : Char) (style : Style) : Stroke := ⟨area, fun _ => c, style⟩

/-- A text to the right of a point, cut off after `width` cells. -/
def text (x y width : Int) (s : String) (style : Style) : Stroke :=
  ⟨⟨x, y, min (max 0 width) s.length, 1⟩, fun p => s.toList.getD (p.x - x).toNat ' ', style⟩

/-- A line along the border of a rectangle, if there is room for all of it. -/
def border (r : Rect) (style : Style) : List Stroke :=
  if r.width < 2 || r.height < 2 then []
  else
    let right := r.right - 1
    let bottom := r.bottom - 1
    [fill ⟨r.left + 1, r.top, r.width - 2, 1⟩ '─' style,
     fill ⟨r.left + 1, bottom, r.width - 2, 1⟩ '─' style,
     fill ⟨r.left, r.top + 1, 1, r.height - 2⟩ '│' style,
     fill ⟨right, r.top + 1, 1, r.height - 2⟩ '│' style,
     fill ⟨r.left, r.top, 1, 1⟩ '┌' style,
     fill ⟨right, r.top, 1, 1⟩ '┐' style,
     fill ⟨r.left, bottom, 1, 1⟩ '└' style,
     fill ⟨right, bottom, 1, 1⟩ '┘' style]

end Stroke

/-! ## Canvases -/

/-- The cells of an area, row by row from the top. -/
structure Canvas where
  area : CellArea
  rows : List (List Cell)
  deriving DecidableEq, Repr, Inhabited

namespace Canvas

/-- An empty canvas, as much of an area as there can be cells. -/
def blank (area : CellArea) : Canvas :=
  let area := area.bounded
  ⟨area, List.replicate area.height (List.replicate area.width {})⟩

def cell? (c : Canvas) (x y : Nat) : Option Cell :=
  if c.area.contains x y then (c.rows[y - c.area.y]?).bind fun row => row[x - c.area.x]? else none

def mapCells (c : Canvas) (f : Nat → Nat → Cell → Cell) : Canvas :=
  { c with
    rows := c.rows.mapIdx fun j row =>
      row.mapIdx fun i cell => f (c.area.x + i) (c.area.y + j) cell }

def stroke (c : Canvas) (s : Stroke) : Canvas :=
  match s.area.clip c.area with
  | none => c
  | some area =>
    c.mapCells fun x y cell =>
      if area.contains x y then cell.draw (s.symbol ⟨x, y⟩) s.style else cell

/-- One cell of a canvas changed. Outside of the canvas there is none. -/
def modify (c : Canvas) (x y : Nat) (f : Cell → Cell) : Canvas :=
  if c.area.contains x y then
    { c with rows := c.rows.modify (y - c.area.y) fun row => row.modify (x - c.area.x) f }
  else c

/-- Some cells of a canvas drawn as a stroke has them, one after the other. -/
def drawEach (c : Canvas) (s : Stroke) (cells : List (Nat × Nat)) : Canvas :=
  cells.foldl (fun c p => c.modify p.2 p.1 fun cell => cell.draw (s.symbol ⟨p.2, p.1⟩) s.style) c

/-- A rectangle filled cell by cell. -/
def fill? (c : Canvas) (r : Rect) (symbol : Char) (style : Style) : Option Canvas := do
  match ← r.clip? c.area with
  | none => some c
  | some area => some (c.drawEach (.fill r symbol style) area.cells)

def text (c : Canvas) : List String := c.rows.map fun row => String.ofList (row.map Cell.symbol)

def paint (c : Canvas) (strokes : List Stroke) : Canvas := strokes.foldl stroke c

end Canvas

end FloatingPanels

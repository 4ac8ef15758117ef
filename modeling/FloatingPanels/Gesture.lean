import FloatingPanels.Snap
/-!
# Drags and resizes

Both gestures keep where the pointer went down and the geometry at that moment.
Every later pointer position is answered from those two alone, so a gesture
does not drift, however many positions it passes through.

The sums and differences of both are coordinates where the rectangles, the sizes
and the positions of the pointer are moderate. `Drag.demote?` and
`Drag.candidate?` compute in coordinates.
-/

namespace FloatingPanels

/-! ## Resize handles -/

/-- One of the eight places on the border of a window where it can be pulled. -/
inductive Handle where
  | left | right | top | bottom
  | topLeft | topRight | bottomLeft | bottomRight
  deriving DecidableEq, Repr, Inhabited

namespace Handle

def all : List Handle :=
  [.topLeft, .topRight, .bottomLeft, .bottomRight, .top, .bottom, .left, .right]

def sides : Handle → Sides
  | left => { left := true }
  | right => { right := true }
  | top => { top := true }
  | bottom => { bottom := true }
  | topLeft => { top := true, left := true }
  | topRight => { top := true, right := true }
  | bottomLeft => { bottom := true, left := true }
  | bottomRight => { bottom := true, right := true }

def className : Handle → String
  | left => "handle-w"
  | right => "handle-e"
  | top => "handle-n"
  | bottom => "handle-s"
  | topLeft => "handle-nw"
  | topRight => "handle-ne"
  | bottomLeft => "handle-sw"
  | bottomRight => "handle-se"

def isCorner (h : Handle) : Bool := h.sides.horizontal && h.sides.vertical

end Handle

/-! ## Drags -/

structure Drag where
  /-- Where the pointer went down. -/
  start : Point
  /-- Where the window was then. -/
  origin : Point
  /-- The rectangle to go back to with the first move, of a window that was
  maximized when the drag began. -/
  restore : Option Rect := none
  deriving DecidableEq, Repr, Inhabited

namespace Drag

def begin (start : Point) (rect : Rect) (restore : Option Rect) : Drag :=
  ⟨start, rect.origin, restore⟩

/-- The rectangle of size `saved.size` that keeps the pointer over the same part
of the title as over `current`: the grabbed offset is scaled to the new width. -/
def demoted (pointer : Point) (current saved : Rect) (viewport : Int) : Rect :=
  let width := max 1 current.width
  let grab := max 0 (min width (pointer.x - current.left))
  -- The saved width may be negative; the quotient is rounded toward zero.
  let offset := (grab * saved.width).tdiv width
  (Rect.mk (pointer.x - offset) current.top saved.width saved.height).clamp viewport

/-- A drag that starts again from the demoted rectangle. -/
def demote (pointer : Point) (current saved : Rect) (viewport : Int) : Drag × Rect :=
  let r := demoted pointer current saved viewport
  (begin pointer r none, r)

/-- The grabbed offset and the saved width may both be moderate and their product
out of range. It is a coordinate where neither is greater than 46340. -/
def demote? (pointer : Point) (current saved : Rect) (viewport : Int) : Option (Drag × Rect) := do
  let width := max 1 current.width
  let grab := max 0 (min width (← Coordinate.of? (pointer.x - current.left)))
  let scaled ← Coordinate.of? (grab * saved.width)
  let left ← Coordinate.of? (pointer.x - scaled.tdiv width)
  let r ← (Rect.mk left current.top saved.width saved.height).clamp? viewport
  some (begin pointer r none, r)

/-- The window follows the pointer, inside the viewport. -/
def candidate (d : Drag) (pointer : Point) (size : Size) (viewport : Int) : Rect :=
  (Rect.place ⟨d.origin.x + (pointer.x - d.start.x), d.origin.y + (pointer.y - d.start.y)⟩
    size).clamp viewport

def candidate? (d : Drag) (pointer : Point) (size : Size) (viewport : Int) : Option Rect := do
  let dx ← Coordinate.of? (pointer.x - d.start.x)
  let left ← Coordinate.of? (d.origin.x + dx)
  let dy ← Coordinate.of? (pointer.y - d.start.y)
  let top ← Coordinate.of? (d.origin.y + dy)
  (Rect.place ⟨left, top⟩ size).clamp? viewport

end Drag

/-! ## Resizes -/

structure Resize where
  handle : Handle
  /-- Where the pointer went down. -/
  start : Point
  /-- The window's rectangle then. -/
  rect : Rect
  deriving DecidableEq, Repr, Inhabited

namespace Resize

/-- The new length of an extent of length `len` whose upper end moves by `d`: at
most `room`, if that is given, but never below `least`. -/
def pullUpper (len d least : Int) (room : Option Int) : Int :=
  max least (match room with
    | none => len + d
    | some room => min (len + d) room)

/-- The new lower end and length of an extent from `lo` of length `len` whose
lower end moves by `d`: not below zero, and never shorter than `least`. -/
def pullLower (lo len d least : Int) : Int × Int :=
  let lo' := max 0 (lo + d)
  let len' := len - d + min 0 (lo + d)
  if len' < least then (lo + len - least, least) else (lo', len')

/-- The rectangle for a pointer position, before any snap. Right sides stay in
the viewport, left and top sides on the page, and the sizes at least `least`;
the bottom side may go anywhere. -/
def candidate (g : Resize) (pointer : Point) (viewport : Int) (least : Size) : Rect :=
  let dx := pointer.x - g.start.x
  let dy := pointer.y - g.start.y
  let r := g.rect
  let sides := g.handle.sides
  let (left, width) :=
    if sides.right then (r.left, pullUpper r.width dx least.width (some (viewport - r.left)))
    else if sides.left then pullLower r.left r.width dx least.width
    else (r.left, r.width)
  let (top, height) :=
    if sides.bottom then (r.top, pullUpper r.height dy least.height none)
    else if sides.top then pullLower r.top r.height dy least.height
    else (r.top, r.height)
  ⟨left, top, width, height⟩

/-- The snapped side moves onto its line and the opposite side stays, unless the
size would fall below `least`. -/
def snapped (r : Rect) (s : Snap) (least : Size) : Rect :=
  let (left, width) :=
    match s.xSide with
    | some .left =>
      if least.width ≤ r.width - s.dx then (r.left + s.dx, r.width - s.dx) else (r.left, r.width)
    | some .right =>
      if least.width ≤ r.width + s.dx then (r.left, r.width + s.dx) else (r.left, r.width)
    | _ => (r.left, r.width)
  let (top, height) :=
    match s.ySide with
    | some .top =>
      if least.height ≤ r.height - s.dy then (r.top + s.dy, r.height - s.dy) else (r.top, r.height)
    | some .bottom =>
      if least.height ≤ r.height + s.dy then (r.top, r.height + s.dy) else (r.top, r.height)
    | _ => (r.top, r.height)
  ⟨left, top, width, height⟩

end Resize

end FloatingPanels

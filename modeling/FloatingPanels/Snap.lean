import FloatingPanels.Side
/-!
# Snapping

A side of a moved rectangle that comes near a reference line is pulled onto it.
Reference lines are the left, right and upper ends of the viewport and the
sides of the other rectangles; the lower end of the viewport is none. On each
axis the nearest line within the sensitivity wins, and of equally near ones the
first. A side that already lies on a line is not pulled.

`Rect.snap` takes the ways to all lines and then the nearest of them. `Rect.snap?`
does it in coordinates and comparison by comparison, and has no result if a right
or lower end, a way or a distance is out of range.
-/

namespace FloatingPanels

/-- A movable side and the way to one of its reference lines. -/
structure Pull where
  side : Side
  delta : Int
  deriving DecidableEq, Repr

namespace Pull

def distance (p : Pull) : Nat := p.delta.natAbs

/-- Near enough to act, but not already there. -/
def active (sensitivity : Int) (p : Pull) : Bool :=
  p.distance != 0 && (p.distance : Int) ≤ sensitivity

/-- The way of `side` to each of `lines`, if the side may move. -/
def toLines (r : Rect) (movable : Sides) (side : Side) (lines : List Int) : List Pull :=
  if movable.has side then lines.map fun line => ⟨side, line - r.side side⟩ else []

def horizontal (r : Rect) (movable : Sides) (others : List Rect) (viewport : Int) : List Pull :=
  toLines r movable .left [0] ++ toLines r movable .right [viewport] ++
    others.flatMap fun o =>
      toLines r movable .left [o.left, o.right] ++ toLines r movable .right [o.left, o.right]

def vertical (r : Rect) (movable : Sides) (others : List Rect) : List Pull :=
  toLines r movable .top [0] ++
    others.flatMap fun o =>
      toLines r movable .top [o.top, o.bottom] ++ toLines r movable .bottom [o.top, o.bottom]

/-- The nearer of two pulls, the first of equally near ones. -/
def nearer : Option Pull → Pull → Option Pull
  | none, p => some p
  | some best, p => if p.distance < best.distance then some p else some best

def nearest (sensitivity : Int) (pulls : List Pull) : Option Pull :=
  (pulls.filter (active sensitivity)).foldl nearer none

end Pull

/-- How far a rectangle is pulled along each axis, and which side pulled it. -/
structure Snap where
  dx : Int := 0
  dy : Int := 0
  xSide : Option Side := none
  ySide : Option Side := none
  deriving DecidableEq, Repr, Inhabited

namespace Snap

def move (s : Snap) (r : Rect) : Rect := r.shift s.dx s.dy

def ofPulls : Option Pull → Option Pull → Option Snap
  | none, none => none
  | x, y => some
      { dx := (x.map Pull.delta).getD 0
        dy := (y.map Pull.delta).getD 0
        xSide := x.map Pull.side
        ySide := y.map Pull.side }

end Snap

/-- The snap of `r` when its `movable` sides may move, if any side is pulled. -/
def Rect.snap (r : Rect) (movable : Sides) (others : List Rect) (viewport sensitivity : Int) :
    Option Snap :=
  Snap.ofPulls
    (Pull.nearest sensitivity (Pull.horizontal r movable others viewport))
    (Pull.nearest sensitivity (Pull.vertical r movable others))

/-! ## Comparison by comparison -/

inductive Axis where
  | x | y
  deriving DecidableEq, Repr

/-- A side of a moved rectangle, and the coordinate of a line that it may be pulled onto. -/
structure Reference where
  side : Side
  line : Int
  deriving DecidableEq, Repr

namespace Reference

/-- The references of an axis in the order in which they are compared: first the ends of
the viewport, but for the lower one, then the sides of the other rectangles. -/
def along (others : List Rect) (viewport : Int) : Axis → List Reference
  | .x => [⟨.left, 0⟩, ⟨.right, viewport⟩] ++ others.flatMap fun o =>
      [⟨.left, o.left⟩, ⟨.left, o.right⟩, ⟨.right, o.left⟩, ⟨.right, o.right⟩]
  | .y => [⟨.top, 0⟩] ++ others.flatMap fun o =>
      [⟨.top, o.top⟩, ⟨.top, o.bottom⟩, ⟨.bottom, o.top⟩, ⟨.bottom, o.bottom⟩]

/-- The best pull after one more comparison. -/
def compare? (r : Rect) (movable : Sides) (sensitivity : Int) (best : Option Pull) (f : Reference) :
    Option (Option Pull) :=
  if movable.has f.side then do
    let line ← Coordinate.of? f.line
    let delta ← Coordinate.of? (line - r.side f.side)
    let distance ← Coordinate.of? delta.natAbs
    if distance = 0 ∨ sensitivity < distance then some best
    else some (Pull.nearer best ⟨f.side, delta⟩)
  else some best

end Reference

def Rect.snap? (r : Rect) (movable : Sides) (others : List Rect) (viewport sensitivity : Int) :
    Option (Option Snap) := do
  let _ ← r.right?
  let _ ← r.bottom?
  let x ← (Reference.along others viewport .x).foldlM (Reference.compare? r movable sensitivity) none
  let y ← (Reference.along others viewport .y).foldlM (Reference.compare? r movable sensitivity) none
  some (Snap.ofPulls x y)

end FloatingPanels

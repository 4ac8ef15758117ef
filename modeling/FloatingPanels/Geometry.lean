/-!
# Page geometry

Points, sizes and rectangles in page units. The origin is the top left corner
of the page and `y` grows downwards. Coordinates are integers: a rectangle may
start left of the page or reach past its lower end.

A coordinate or a length is kept in 32 bits with a sign. The definitions of this
library compute with integers of any size, so they say what comes of coordinates
as long as every sum, difference and product is a coordinate again. Sums and
differences are in range where the rectangles, points, sizes and measures that
are given are moderate (`Coordinate.Moderate`). Two given numbers are multiplied
only in the demotion of a drag. Some definitions are made a second time, with a
name that ends in `?` (`Rect.clamp?`, `Rect.snap?`, `Drag.demote?`,
`Canvas.fill?`): these compute in coordinates, and have no result if a number on
the way is out of range.
-/

namespace FloatingPanels

namespace Coordinate

def least : Int := -0x80000000

def greatest : Int := 0x7FFFFFFF

def InRange (n : Int) : Prop := least ≤ n ∧ n ≤ greatest

instance (n : Int) : Decidable (InRange n) := inferInstanceAs (Decidable (_ ∧ _))

/-- A sum, a difference or a product as a coordinate, unless it overflows. -/
def of? (n : Int) : Option Int := if InRange n then some n else none

/-- Far from both ends of the range. -/
def Moderate (n : Int) : Prop := -0x4000000 ≤ n ∧ n ≤ 0x4000000

instance (n : Int) : Decidable (Moderate n) := inferInstanceAs (Decidable (_ ∧ _))

end Coordinate

structure Point where
  x : Int
  y : Int
  deriving DecidableEq, Repr, Inhabited

structure Size where
  width : Int
  height : Int
  deriving DecidableEq, Repr, Inhabited

/-- A rectangle by its top left corner and its size, which may be negative. -/
structure Rect where
  left : Int
  top : Int
  width : Int
  height : Int
  deriving DecidableEq, Repr, Inhabited

namespace Rect

variable (r : Rect)

def right : Int := r.left + r.width

def bottom : Int := r.top + r.height

def right? : Option Int := Coordinate.of? (r.left + r.width)

def bottom? : Option Int := Coordinate.of? (r.top + r.height)

def size : Size := ⟨r.width, r.height⟩

def origin : Point := ⟨r.left, r.top⟩

def place (p : Point) (s : Size) : Rect := ⟨p.x, p.y, s.width, s.height⟩

def isEmpty : Bool := r.width ≤ 0 || r.height ≤ 0

/-- The left and top sides belong to a rectangle, the right and bottom sides do not. -/
def contains (p : Point) : Bool :=
  r.left ≤ p.x && p.x < r.right && r.top ≤ p.y && p.y < r.bottom

/-- Two rectangles intersect when neither is empty and they share a point. -/
def intersects (s : Rect) : Bool :=
  !r.isEmpty && !s.isEmpty &&
    (r.left < s.right && s.left < r.right && r.top < s.bottom && s.top < r.bottom)

def shift (dx dy : Int) : Rect := { r with left := r.left + dx, top := r.top + dy }

/-- The rectangle moved so that it starts on the page and, as far as its width
allows, ends inside a viewport of width `viewport`. It may reach below the
viewport. -/
def clamp (viewport : Int) : Rect :=
  { r with
    left := max 0 (min r.left (max 0 (viewport - r.width)))
    top := max 0 r.top }

def clamp? (viewport : Int) : Option Rect := do
  let room ← Coordinate.of? (viewport - r.width)
  some { r with left := max 0 (min r.left (max 0 room)), top := max 0 r.top }

/-- Its corner and its size are moderate. -/
def Moderate : Prop :=
  Coordinate.Moderate r.left ∧ Coordinate.Moderate r.top ∧
    Coordinate.Moderate r.width ∧ Coordinate.Moderate r.height

instance (r : Rect) : Decidable r.Moderate := inferInstanceAs (Decidable (_ ∧ _))

end Rect

end FloatingPanels

import FloatingPanels.Geometry
/-!
# Sides of a rectangle

`Sides` is a set of sides. The sides are always listed in the order left,
right, top, bottom.
-/

namespace FloatingPanels

inductive Side where
  | left | right | top | bottom
  deriving DecidableEq, Repr, Inhabited

def Side.all : List Side := [.left, .right, .top, .bottom]

structure Sides where
  left : Bool := false
  right : Bool := false
  top : Bool := false
  bottom : Bool := false
  deriving DecidableEq, Repr, Inhabited

namespace Sides

def all : Sides := ⟨true, true, true, true⟩

def has (s : Sides) : Side → Bool
  | .left => s.left
  | .right => s.right
  | .top => s.top
  | .bottom => s.bottom

def toList (s : Sides) : List Side := Side.all.filter s.has

def ofList (l : List Side) : Sides :=
  ⟨l.contains .left, l.contains .right, l.contains .top, l.contains .bottom⟩

/-- The only member of a set with one member. -/
def only? (s : Sides) : Option Side :=
  match s.toList with
  | [side] => some side
  | _ => none

/-- Whether a side that moves along `x` is a member. -/
def horizontal (s : Sides) : Bool := s.left || s.right

/-- Whether a side that moves along `y` is a member. -/
def vertical (s : Sides) : Bool := s.top || s.bottom

end Sides

/-- The coordinate of a side: `x` for the left and right sides, `y` for the others. -/
def Rect.side (r : Rect) : Side → Int
  | .left => r.left
  | .right => r.right
  | .top => r.top
  | .bottom => r.bottom

end FloatingPanels

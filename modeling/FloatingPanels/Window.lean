import FloatingPanels.Frame.Layout
import FloatingPanels.Tray
import FloatingPanels.Value
/-!
# Windows

A window is in one mode at a time. The modes that end of themselves or by a
single operation carry what is needed to go back.
-/

namespace FloatingPanels

/-- What a window does with the pointer and with the page. -/
inductive Mode where
  | normal
  /-- Filling its container, with the rectangle from before. -/
  | maximized (saved : Rect)
  /-- Held in place; maximized before if there is a rectangle to restore. -/
  | stuck (restore : Option Rect)
  /-- In the tray; maximized before if there is a rectangle to restore. -/
  | hidden (restore : Option Rect)
  | dragging (d : Drag)
  | resizing (g : Resize)
  deriving DecidableEq, Repr, Inhabited

namespace Mode

def isStuck : Mode → Bool
  | stuck _ => true
  | _ => false

def isHidden : Mode → Bool
  | hidden _ => true
  | _ => false

def inGesture : Mode → Bool
  | dragging _ | resizing _ => true
  | _ => false

/-- Whether the window is shown as maximized: it is, it is stuck so, or it is
held by a drag that has not moved yet. -/
def isMaximized : Mode → Bool
  | maximized _ => true
  | stuck restore => restore.isSome
  | dragging d => d.restore.isSome
  | _ => false

/-- What a window at rest would have to restore: nothing in normal mode, the
saved rectangle when it is maximized. Other modes are not at rest. -/
def atRest : Mode → Option (Option Rect)
  | normal => some none
  | maximized saved => some (some saved)
  | _ => none

/-- The mode at rest with this to restore. -/
def ofRestore : Option Rect → Mode
  | none => normal
  | some saved => maximized saved

end Mode

structure Window where
  id : WindowId
  kind : String
  container : String
  rect : Rect
  /-- Its height in the stack: the lowest window has 1. -/
  z : Nat := 0
  caps : Capabilities
  mode : Mode := .normal
  /-- The address it claimed last. -/
  address : Option String := none
  frame : Frame
  /-- The names of embedded widgets, in the order in which they came. -/
  widgets : List String := []
  constructed : Bool := false
  deriving Repr, Inhabited

def Window.layout (w : Window) (m : Metrics) : Layout := .compute w.rect m w.frame

/-- A window that is above the height `z` goes down by one. -/
def Window.sink (z : Nat) (w : Window) : Window := if z < w.z then { w with z := w.z - 1 } else w

/-- The order of the stack: by height, and of equal heights by number. -/
def Window.notAbove (v w : Window) : Bool :=
  v.z < w.z || (v.z = w.z && v.id.number ≤ w.id.number)

structure WindowSpec where
  kind : String
  parent : Option String := none
  caps : Capabilities := {}
  title : Option String := none
  address : Option String := none
  under : Option String := none
  /-- Data for the panel's own code. -/
  params : Value := .null
  deriving Repr, Inhabited

end FloatingPanels

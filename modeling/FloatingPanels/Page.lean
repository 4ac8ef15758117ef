import FloatingPanels.Geometry
import FloatingPanels.Keyed
/-!
# The page

A page has a viewport, containers to which windows are attached, and named
anchors that windows are placed by.
-/

namespace FloatingPanels

/-- The number of a window. Numbers count up from one and are never used again. -/
structure WindowId where
  number : Nat
  deriving DecidableEq, Repr, Inhabited

def WindowId.text (id : WindowId) : String := s!"view-{id.number}"

/-- A part of the page, with the windows attached to it in the order in which
they came. -/
structure Container where
  rect : Rect
  children : List WindowId := []
  deriving DecidableEq, Repr, Inhabited

structure Page where
  viewport : Size
  containers : Keyed String Container := []
  /-- The container of windows that ask for none. -/
  usual : Option String := none
  anchors : Keyed String Rect := []
  /-- New windows are placed to the right of this anchor. -/
  sidePanel : Option String := none
  deriving Repr, Inhabited

namespace Page

/-- The container that follows the viewport. -/
def mainContainer : String := "desktop"

def viewportRect (s : Size) : Rect := ⟨0, 0, s.width, s.height⟩

def withContainer (p : Page) (name : String) (rect : Rect) : Page :=
  { p with containers := Keyed.set name { rect } p.containers }

def setAnchor (p : Page) (name : String) (rect : Rect) : Page :=
  { p with anchors := Keyed.set name rect p.anchors }

def ofViewport (s : Size) : Page :=
  { (Page.withContainer { viewport := s } mainContainer (viewportRect s)) with
    usual := some mainContainer }

/-- The page with another viewport, and its main container with it. -/
def setViewport (p : Page) (s : Size) : Page :=
  { p with
    viewport := s
    containers :=
      Keyed.update mainContainer (fun c => { c with rect := viewportRect s }) p.containers }

def anchor? (p : Page) (name : String) : Option Rect := p.anchors.value? name

def container? (p : Page) (name : String) : Option Container := p.containers.value? name

/-- The container for a request: the one that is asked for, else the usual one,
if the page has it. -/
def resolve (p : Page) (requested : Option String) : Option String :=
  (requested.or p.usual).filter p.containers.hasKey

/-- Where new windows begin: right of the side panel, at the top. -/
def origin (p : Page) : Point :=
  ⟨((p.sidePanel.bind p.anchor?).map Rect.right).getD 0, 0⟩

def attach (p : Page) (name : String) (id : WindowId) : Page :=
  { p with
    containers :=
      Keyed.update name (fun c => { c with children := c.children ++ [id] }) p.containers }

def detach (p : Page) (id : WindowId) : Page :=
  { p with
    containers := p.containers.map fun e =>
      (e.1, { e.2 with children := e.2.children.filter (· ≠ id) }) }

def isAttached (p : Page) (id : WindowId) : Bool :=
  p.containers.any fun e => e.2.children.contains id

end Page

end FloatingPanels

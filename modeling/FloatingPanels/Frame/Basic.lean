import FloatingPanels.Capability
import FloatingPanels.Gesture
import FloatingPanels.Markup.Flow
import FloatingPanels.Settings
/-!
# Window frames

A frame is the tree of one window: the chrome, with the panel's own content in
the content slot. The parts of a frame are found by their classes, each time in
the whole tree, and the first element of a class is the part.
-/

namespace FloatingPanels

inductive Control where
  | stick | hide | maximize | close
  deriving DecidableEq, Repr, Inhabited

namespace Control

/-- From the right end of the header to the left. -/
def all : List Control := [.close, .maximize, .hide, .stick]

def className : Control → String
  | stick => "view-stick"
  | hide => "view-hide"
  | maximize => "view-maximize"
  | close => "view-close"

/-- The capability that a button needs. -/
def capability : Control → Capability
  | stick => .stick
  | hide => .hide
  | maximize => .maximize
  | close => .close

end Control

structure Frame where
  root : Element
  deriving DecidableEq, Repr, Inhabited

namespace Frame

def contentClass : String := "view-content"

def titleClass : String := "view-title"

def errorClass : String := "view-error"

/-- The attribute that marks a frame while some window is dragged or resized. -/
def lockAttr : String := "data-interacting"

/-- The classes that chrome has to carry, in the order in which they are looked
for after the content slot. -/
def requiredClasses : List String :=
  ["view-header", titleClass, "view-footer"] ++ Handle.all.map Handle.className

/-- The frame of a window of a kind: the content goes to the end of the content
slot of the chrome. The error is the class of a part that is missing. -/
def build (chrome content : Element) (kind : String) : Except String Frame :=
  match chrome.changeClass? contentClass fun slot => slot.append (.ofElement content) with
  | none => .error contentClass
  | some root =>
    match requiredClasses.find? fun name => (root.findClass name).isNone with
    | some missing => .error missing
    | none => .ok ⟨root.setAttr "data-view-type" kind⟩

def change (f : Frame) (name : String) (g : Element → Element) : Frame :=
  ⟨f.root.changeClass name g⟩

/-! ## Controls -/

/-- The frame with exactly the buttons visible that `caps` allows. -/
def allow (f : Frame) (caps : Capabilities) : Frame :=
  Control.all.foldl
    (fun f c => f.change c.className fun button => button.setHidden (!caps.has c.capability)) f

def shows (f : Frame) (c : Control) : Bool :=
  match f.root.findClass c.className with
  | some button => !button.isHidden
  | none => false

def controls (f : Frame) : List Control := Control.all.filter f.shows

/-! ## Title and error -/

def title (f : Frame) : String := ((f.root.findClass titleClass).map Element.text).getD ""

def setTitle (f : Frame) (title : String) : Frame := f.change titleClass (·.setText title)

def error (f : Frame) : Option String :=
  ((f.root.findClass errorClass).map Element.text).filter (· ≠ "")

def setError (f : Frame) (message : Option String) : Frame :=
  f.change errorClass fun slot =>
    match message with
    | some text => slot.setText text
    | none => { slot with children := .nil }

/-! ## Interaction lock -/

def lock (f : Frame) (locked : Bool) : Frame :=
  ⟨if locked then f.root.setAttr lockAttr "" else f.root.removeAttr lockAttr⟩

def isLocked (f : Frame) : Bool := (f.root.attr lockAttr).isSome

/-! ## Content -/

def content (f : Frame) : Option Element := f.root.findClass contentClass

def contentLines (f : Frame) : List String := (f.content.map Element.textLines).getD []

/-- The frame with a new text in the first element of a class inside the content
slot, the slot itself included. There is none where no such element is. -/
def setContentText? (f : Frame) (name text : String) : Option Frame := do
  let slot ← f.content
  let slot ← slot.changeClass? name (·.setText text)
  return f.change contentClass fun _ => slot

/-- The natural size of the panel's own root, so that its attributes `width` and
`height` count; of the slot itself if that holds several elements or none. -/
def naturalSize (f : Frame) : Size :=
  match f.content with
  | none => ⟨0, 0⟩
  | some slot =>
    match slot.children.elements with
    | [root] => root.naturalSize
    | _ => slot.naturalSize

/-- The size of a window that shows all of its content. -/
def fitSize (f : Frame) (m : Metrics) : Size :=
  ⟨f.naturalSize.width + m.chromeWidth,
   f.naturalSize.height + m.headerHeight + m.footerHeight + m.chromeHeight⟩

end Frame

end FloatingPanels

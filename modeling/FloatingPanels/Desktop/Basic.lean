import FloatingPanels.Desktop.Error
import FloatingPanels.Frame.Chrome
import FloatingPanels.Template
import FloatingPanels.Window
/-!
# Desktops

A desktop holds the live windows of one page in the order of their numbers, and
beside them the owners of addresses, the tray and the gesture that is going on. Each
window holds its own height in the stack, and all that moves a window up or takes it
away renumbers the others. Operations on a window say that it is not live
if it is not, and answer whether they did anything.
-/

namespace FloatingPanels

inductive Notice where
  /-- Left by the code of a panel or a host. -/
  | note (data : Value)
  /-- An embedded widget was torn down while these windows were live. -/
  | teardown (widget : String) (live : List WindowId)
  deriving Repr, Inhabited

structure Desktop where
  settings : Settings := {}
  page : Page
  library : Library := {}
  /-- The chrome of windows that are still to be created. -/
  chrome : Element := Chrome.usual
  /-- In the order of their numbers. -/
  windows : List Window := []
  /-- The window that claimed an address last, as long as it keeps it. -/
  addresses : Keyed String WindowId := []
  tray : Tray := []
  gesture : Option WindowId := none
  /-- The window that was completed last, while it is live. -/
  lastCreated : Option WindowId := none
  /-- The number of windows there have been. -/
  issued : Nat := 0
  /-- The latest entry comes first. -/
  journal : List Notice := []
  deriving Inhabited

namespace Desktop

/-! ## Windows -/

def window? (d : Desktop) (id : WindowId) : Option Window := d.windows.find? fun w => w.id = id

def isLive (d : Desktop) (id : WindowId) : Bool := (d.window? id).isSome

def ids (d : Desktop) : List WindowId := d.windows.map Window.id

def change (d : Desktop) (id : WindowId) (f : Window → Window) : Desktop :=
  { d with windows := d.windows.map fun w => if w.id = id then f w else w }

/-- What an operation on a window answers: the desktop afterwards, and whether
anything was done. -/
abbrev Outcome := Except DesktopError (Desktop × Bool)

def onWindow (d : Desktop) (id : WindowId) (f : Window → Desktop × Bool) : Outcome :=
  match d.window? id with
  | none => .error (.notLive id)
  | some w => .ok (f w)

/-- The height of a live window in the stack. -/
def z (d : Desktop) (id : WindowId) : Nat := ((d.window? id).map Window.z).getD 0

def stacked (d : Desktop) : List Window := d.windows.mergeSort Window.notAbove

def stack (d : Desktop) : List WindowId := d.stacked.map Window.id

def hiddenWindows (d : Desktop) : List Window := d.windows.filter fun w => w.mode.isHidden

/-! ## Stacking -/

/-- Raises a window to the top; those above it go down by one. The answer is false
if it was the topmost already. -/
def raise (d : Desktop) (id : WindowId) : Desktop × Bool :=
  match d.window? id with
  | none => (d, false)
  | some w =>
    let top := d.windows.length
    if w.z = top then (d, false)
    else
      -- Those above it close the gap that it leaves.
      ({ d with
          windows := d.windows.map fun v =>
            if v.id = id then { v with z := top } else v.sink w.z }, true)

def bringToFront (d : Desktop) (id : WindowId) : Outcome := d.onWindow id fun _ => d.raise id

/-! ## Addresses -/

def byAddress (d : Desktop) (address : String) : Option WindowId := d.addresses.value? address

/-- The addresses without the one that a window owns. -/
def addressesWithout (d : Desktop) (w : Window) : Keyed String WindowId :=
  match w.address with
  | some old => if d.byAddress old = some w.id then Keyed.remove old d.addresses else d.addresses
  | none => d.addresses

/-- A window claims an address, and gives up the one it owns until then. -/
def setAddress (d : Desktop) (id : WindowId) (address : String) : Desktop × Bool :=
  match d.window? id with
  | none => (d, false)
  | some w =>
    ({ (d.change id fun w => { w with address := some address }) with
        addresses := Keyed.set address id (d.addressesWithout w) }, true)

/-! ## Frames and widgets -/

def changeFrame (d : Desktop) (id : WindowId) (f : Frame → Frame) : Desktop × Bool :=
  if d.isLive id then (d.change id fun w => { w with frame := f w.frame }, true) else (d, false)

def setTitle (d : Desktop) (id : WindowId) (title : String) : Desktop × Bool :=
  d.changeFrame id (·.setTitle title)

def setError (d : Desktop) (id : WindowId) (message : Option String) : Desktop × Bool :=
  d.changeFrame id (·.setError message)

/-- Changes the text of the first element of a class in the content of a window. -/
def setContentText (d : Desktop) (id : WindowId) (name text : String) : Desktop × Bool :=
  match (d.window? id).bind fun w => w.frame.setContentText? name text with
  | some frame => (d.change id fun w => { w with frame }, true)
  | none => (d, false)

/-- Hands a widget to a window; it is torn down with the window. -/
def embed (d : Desktop) (id : WindowId) (widget : String) : Desktop × Bool :=
  if d.isLive id then
    (d.change id fun w => { w with widgets := w.widgets ++ [widget] }, true)
  else (d, false)

/-! ## The interaction lock -/

def lockAll (d : Desktop) (locked : Bool) : Desktop :=
  { d with windows := d.windows.map fun w => { w with frame := w.frame.lock locked } }

def endGesture (d : Desktop) : Desktop := { d with gesture := none }.lockAll false

/-! ## Removal -/

/-- The desktop without a window and all that refers to it. -/
def remove (d : Desktop) (w : Window) : Desktop :=
  let d := { d with
    windows := (d.windows.filter fun v : Window => v.id ≠ w.id).map (Window.sink w.z)
    addresses := d.addresses.filter fun e => e.2 ≠ w.id
    tray := if w.mode.isHidden then d.tray.restore w.id else d.tray
    lastCreated := d.lastCreated.filter (· ≠ w.id)
    page := d.page.detach w.id }
  let d := if d.gesture = some w.id then d.endGesture else d
  -- Its widgets are torn down when it is gone already.
  { d with journal := (w.widgets.map fun name => .teardown name d.ids).reverse ++ d.journal }

def destroy (d : Desktop) (id : WindowId) : Except DesktopError Desktop :=
  match d.window? id with
  | none => .error (.notLive id)
  | some w => .ok (d.remove w)

def close (d : Desktop) (id : WindowId) : Outcome :=
  d.onWindow id fun w => if w.caps.close then (d.remove w, true) else (d, false)

/-! ## The page -/

/-- The rectangle of a window after its page has got another size: its container if
it is maximized, else its own, moved into the viewport. -/
def settledRect (p : Page) (w : Window) : Rect :=
  match w.mode with
  | .maximized _ =>
    match p.container? w.container with
    | some c => c.rect
    | none => w.rect
  | _ => w.rect.clamp p.viewport.width

def setViewport (d : Desktop) (s : Size) : Desktop :=
  let page := d.page.setViewport s
  { d with
    page
    windows := d.windows.map fun w => { w with rect := settledRect page w } }

def setAnchor (d : Desktop) (name : String) (rect : Rect) : Desktop :=
  { d with page := d.page.setAnchor name rect }

def placeUnder (d : Desktop) (id : WindowId) (anchor : String) : Except DesktopError Desktop :=
  match d.page.anchor? anchor with
  | none => .error (.unknownAnchor anchor)
  | some a =>
    if d.isLive id then
      .ok (d.change id fun w =>
        let rect := { w.rect with left := a.left, top := a.bottom }
        { w with rect := rect.clamp d.page.viewport.width })
    else .error (.notLive id)

/-! ## Settings and templates -/

def setChrome (d : Desktop) (markup : String) : Except TemplateError Desktop :=
  (Fragment.parse markup).map fun chrome => { d with chrome }

def setSensitivity (d : Desktop) (n : Int) : Desktop :=
  { d with settings := { d.settings with sensitivity := n } }

def registerTemplate (d : Desktop) (kind markup : String) : Desktop :=
  { d with library := d.library.register kind markup }

def registerPreset (d : Desktop) (kind name : String) (data : Value) : Desktop :=
  { d with library := d.library.registerPreset kind name data }

def note (d : Desktop) (data : Value) : Desktop := { d with journal := .note data :: d.journal }

end Desktop

end FloatingPanels

import FloatingPanels.Desktop.Basic
/-!
# Changes of mode

Windows at rest can be maximized, hidden and stuck, each with the capability
for it. What a maximized window has to restore goes with it into the tray and
while it is stuck, and comes back when it is shown or let loose.
-/

namespace FloatingPanels

namespace Desktop

def fillRect (d : Desktop) (w : Window) : Rect :=
  match d.page.container? w.container with
  | some c => c.rect
  | none => Page.viewportRect d.page.viewport

/-- A window fills its container and comes to the top. -/
def fill (d : Desktop) (w : Window) : Desktop :=
  ((d.change w.id fun v => { v with rect := d.fillRect w, mode := .maximized w.rect }).raise w.id).1

def normalizeWindow (d : Desktop) (w : Window) : Desktop × Bool :=
  match w.mode with
  | .maximized saved =>
    if w.caps.maximize then
      (d.change w.id fun v => { v with rect := saved, mode := .normal }, true)
    else (d, false)
  | _ => (d, false)

def normalize (d : Desktop) (id : WindowId) : Outcome := d.onWindow id d.normalizeWindow

/-- A hidden window comes out of the tray and to the top. -/
def revealWindow (d : Desktop) (w : Window) : Desktop × Bool :=
  match w.mode with
  | .hidden restore =>
    if w.caps.hide then
      ({ ((d.change w.id fun v => { v with mode := .ofRestore restore }).raise w.id).1 with
          tray := d.tray.restore w.id }, true)
    else (d, false)
  | _ => (d, false)

def reveal (d : Desktop) (id : WindowId) : Outcome := d.onWindow id d.revealWindow

/-- Maximizes a window, or takes a maximized one back. A hidden window is shown
first, and if it was maximized when it was hidden it stays so. -/
def maximizeWindow (d : Desktop) (w : Window) : Desktop × Bool :=
  if !w.caps.maximize then (d, false)
  else
    match w.mode with
    | .stuck _ | .dragging _ | .resizing _ => (d, false)
    | .maximized _ => d.normalizeWindow w
    | .normal => (d.fill w, true)
    | .hidden (some _) => if w.caps.hide then d.revealWindow w else (d.fill w, true)
    | .hidden none => ((d.revealWindow w).1.fill w, true)

def maximize (d : Desktop) (id : WindowId) : Outcome := d.onWindow id d.maximizeWindow

def hide (d : Desktop) (id : WindowId) : Outcome :=
  d.onWindow id fun w =>
    match w.mode.atRest with
    | some restore =>
      if w.caps.hide then
        ({ (d.change id fun v => { v with mode := .hidden restore }) with
            tray := d.tray.hide id w.frame.title }, true)
      else (d, false)
    | none => (d, false)

def stick (d : Desktop) (id : WindowId) : Outcome :=
  d.onWindow id fun w =>
    match w.mode.atRest with
    | some restore =>
      if w.caps.stick then (d.change id fun v => { v with mode := .stuck restore }, true)
      else (d, false)
    | none => (d, false)

def unstick (d : Desktop) (id : WindowId) : Outcome :=
  d.onWindow id fun w =>
    match w.mode with
    | .stuck restore => (d.change id fun v => { v with mode := .ofRestore restore }, true)
    | _ => (d, false)

def toggleStick (d : Desktop) (id : WindowId) : Outcome :=
  match d.window? id with
  | none => .error (.notLive id)
  | some w => if w.mode.isStuck then d.unstick id else d.stick id

/-- Gives a window the size of its content along the axes of a handle. -/
def fit (d : Desktop) (id : WindowId) (h : Handle) : Outcome :=
  d.onWindow id fun w =>
    if w.mode.isStuck || w.mode.isHidden then (d, false)
    else
      let size := w.frame.fitSize d.settings.metrics
      let rect :=
        { w.rect with
          width := if h.sides.horizontal then size.width else w.rect.width
          height := if h.sides.vertical then size.height else w.rect.height }
      if rect = w.rect then (d, false) else (d.change id fun v => { v with rect }, true)

end Desktop

end FloatingPanels

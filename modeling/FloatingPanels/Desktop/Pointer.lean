import FloatingPanels.Desktop.Modes
/-!
# The pointer on a desktop

A press goes to the part of the topmost window under the pointer. At most one
gesture is going on at a time; while it is, all frames are locked and every
move of the pointer goes to its window. A gesture ends with the release of the
pointer or with its window.
-/

namespace FloatingPanels

namespace Desktop

/-! ## Gestures -/

/-- Gestures start on windows that are shown and loose, when no other is going on. -/
def canStart (d : Desktop) (w : Window) : Bool :=
  d.gesture.isNone && !w.mode.isStuck && !w.mode.isHidden

def start (d : Desktop) (id : WindowId) (mode : Mode) : Desktop :=
  { ((d.change id fun v => { v with mode }).raise id).1 with gesture := some id }.lockAll true

def beginDrag (d : Desktop) (id : WindowId) (p : Point) : Outcome :=
  d.onWindow id fun w =>
    if d.canStart w then
      let restore :=
        match w.mode with
        | .maximized saved => some saved
        | _ => none
      (d.start id (.dragging (.begin p w.rect restore)), true)
    else (d, false)

def beginResize (d : Desktop) (id : WindowId) (h : Handle) (p : Point) : Outcome :=
  d.onWindow id fun w =>
    if d.canStart w && !w.mode.isMaximized then
      (d.start id (.resizing ⟨h, p, w.rect⟩), true)
    else (d, false)

/-- The rectangles that a moved window is pulled to: those of the other windows
that are shown and cling. -/
def clingRects (d : Desktop) (id : WindowId) : List Rect :=
  (d.windows.filter fun w => w.id ≠ id && w.caps.cling && !w.mode.isHidden).map Window.rect

def dragTo (d : Desktop) (w : Window) (g : Drag) (p : Point) : Window :=
  let viewport := d.page.viewport.width
  let (g, rect) :=
    match g.restore with
    | some saved => Drag.demote p w.rect saved viewport
    | none => (g, w.rect)
  let free := g.candidate p rect.size viewport
  let rect :=
    if w.caps.cling then
      match free.snap .all (d.clingRects w.id) viewport d.settings.sensitivity with
      | some s => (s.move free).clamp viewport
      | none => free
    else free
  { w with rect, mode := .dragging g }

def resizeTo (d : Desktop) (w : Window) (g : Resize) (p : Point) : Window :=
  let viewport := d.page.viewport.width
  let free := g.candidate p viewport d.settings.least
  let rect :=
    if w.caps.cling then
      match free.snap g.handle.sides (d.clingRects w.id) viewport d.settings.sensitivity with
      | some s => Resize.snapped free s d.settings.least
      | none => free
    else free
  { w with rect }

/-- The pointer has moved; the answer says whether a gesture took the move. -/
def pointerMove (d : Desktop) (p : Point) : Desktop × Bool :=
  match d.gesture with
  | none => (d, false)
  | some id =>
    match d.window? id with
    | none => (d, false)
    | some w =>
      match w.mode with
      | .dragging g => (d.change id fun v => d.dragTo v g p, true)
      | .resizing g => (d.change id fun v => d.resizeTo v g p, true)
      | _ => (d, false)

/-- The mode after a gesture. A maximized window that was not moved stays so. -/
def Mode.released : Mode → Mode
  | .dragging g => .ofRestore g.restore
  | .resizing _ => .normal
  | mode => mode

/-- The pointer is released; the answer says whether a gesture ended. -/
def pointerUp (d : Desktop) : Desktop × Bool :=
  match d.gesture with
  | none => (d, false)
  | some id => ((d.change id fun w => { w with mode := Mode.released w.mode }).endGesture, true)

/-! ## Presses -/

/-- The topmost window under a point that is not hidden, and the part of it. -/
def hitTest (d : Desktop) (p : Point) : Option (WindowId × Part) :=
  d.stacked.reverse.findSome? fun w =>
    if w.mode.isHidden then none
    else ((w.layout d.settings.metrics).partAt p).map fun part => (w.id, part)

def press (d : Desktop) (id : WindowId) : Control → Outcome
  | .close => d.close id
  | .hide => d.hide id
  | .maximize => d.maximize id
  | .stick => d.toggleStick id

def pressPart (d : Desktop) (id : WindowId) (p : Point) : Part → Outcome
  | .title => d.beginDrag id p
  | .handle h => d.beginResize id h p
  | .control c => d.press id c
  | .content | .footer => (d.bringToFront id).map fun r => (r.1, true)

def doubleClickPart (d : Desktop) (id : WindowId) : Part → Outcome
  | .handle h => d.fit id h
  | .title => d.maximize id
  | _ => .ok (d, false)

def atPoint (d : Desktop) (p : Point) (f : WindowId → Part → Outcome) : Desktop × Bool :=
  match d.hitTest p with
  | none => (d, false)
  | some (id, part) =>
    match f id part with
    | .ok r => r
    | .error _ => (d, false)

def pointerDown (d : Desktop) (p : Point) : Desktop × Bool :=
  d.atPoint p fun id part => d.pressPart id p part

def doubleClick (d : Desktop) (p : Point) : Desktop × Bool :=
  d.atPoint p fun id part => d.doubleClickPart id part

end Desktop

end FloatingPanels

import FloatingPanels.App.Panel
import FloatingPanels.CommandLine
import FloatingPanels.Terminal.Loop
/-!
# The application

A desktop in a terminal, with a launcher at its left side and a status line in
the last row. Keys and the mouse open, arrange and close panels.
-/

namespace FloatingPanels

structure App where
  session : Session
  router : Router := {}
  cling : Bool := true
  refreshes : Nat := 0
  deriving Inhabited

namespace App

def launcherAnchor : String := "launcher"

def launcherWidth : Int := 16

/-- The launcher takes the left side of the viewport. -/
def launcherRect (viewport : Size) : Rect := ⟨0, 0, launcherWidth, viewport.height⟩

/-- The viewport leaves the last row of the terminal to the status line. -/
def viewport (columns rows : Nat) : Size := ⟨columns, rows - 1⟩

def start (l : CommandLine) (columns rows : Nat) : App :=
  let size := viewport columns rows
  let page :=
    { ((Page.ofViewport size).setAnchor launcherAnchor (launcherRect size)) with
      sidePanel := some launcherAnchor }
  let settings : Settings :=
    { least := ⟨16, 5⟩, sensitivity := l.chosenSensitivity, metrics := .cells }
  { session := { desktop := Panel.install { settings, page } }, cling := !l.noCling }

def desktop (a : App) : Desktop := a.session.desktop

def perform (a : App) (action : Action) : App :=
  { a with session := (a.session.perform action).1 }

/-- The steps that the programs of panels take at most: a few for a creation, and
a few for each window that a refresh reaches. -/
def limit (d : Desktop) : Nat := 4 * d.windows.length + 16

def run (a : App) (p : Program) : App :=
  { a with session := (a.session.run? (limit a.desktop) p).getD a.session }

def openPanel (a : App) (p : Panel) : App :=
  a.run (.create [p.creation a.cling a.desktop.windows.length] fun _ => .accept)

def refresh (a : App) : App :=
  let a := { a with refreshes := a.refreshes + 1 }
  a.run (.broadcast Panel.refreshTag (Panel.refreshPayload a.refreshes) .null fun _ => .accept)

def onSome (a : App) (id : Option WindowId) (f : WindowId → Action) : App :=
  match id with
  | some id => a.perform (f id)
  | none => a

def lowest (a : App) : Option WindowId :=
  (a.desktop.stacked.find? fun w => !w.mode.isHidden).map Window.id

/-- The topmost window, hidden or not. -/
def topmost (a : App) : Option WindowId := a.desktop.stack.getLast?

def firstHidden (a : App) : Option WindowId := a.desktop.hiddenWindows.head?.map Window.id

def openRow (a : App) (row : Int) : App :=
  match Panel.atRow row with
  | some p => a.openPanel p
  | none => a

def press (a : App) : Key → App × Decision
  | .escape => (a, .quit)
  | .tab => (a.onSome a.lowest .bringToFront, .proceed)
  | .char c =>
    if c = 'q' then (a, .quit)
    else
      let next :=
        if '1' ≤ c && c ≤ '9' then a.openRow ((c.toNat : Int) - '1'.toNat)
        else if c = 'r' then a.refresh
        else if c = 'u' then a.onSome a.firstHidden .reveal
        else if c = 'x' then a.onSome a.topmost .close
        else if c = 's' then a.onSome a.topmost .toggleStick
        else a
      (next, .proceed)
  | _ => (a, .proceed)

/-- Whether the launcher takes the mouse at a point: never during a gesture. -/
def launcherTakes (a : App) (p : Point) : Bool :=
  (launcherRect a.desktop.page.viewport).contains p && a.desktop.gesture.isNone

def mouse (a : App) (now : Nat) (e : MouseEvent) : App :=
  if a.launcherTakes e.point then
    if e.kind = .down .left then a.openRow (e.point.y - 1) else a
  else
    let (router, action) := a.router.route e now
    match action with
    | some action => { a with router }.perform action
    | none => { a with router }

def resize (a : App) (columns rows : Nat) : App :=
  let size := viewport columns rows
  (a.perform (.setViewport size)).perform (.setAnchor launcherAnchor (launcherRect size))

def handle (a : App) (now : Nat) : Event → App × Decision
  | .key k .press => a.press k
  | .mouse e => (a.mouse now e, .proceed)
  | .resize columns rows => (a.resize columns rows, .proceed)
  | _ => (a, .proceed)

end App

end FloatingPanels

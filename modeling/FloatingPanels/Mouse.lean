import FloatingPanels.Desktop.Action
/-!
# The mouse

The router turns mouse events into actions on a desktop. A press of the left
button is a double click if the press before it was at the same place, not long
ago, and not itself the second of a double click.
-/

namespace FloatingPanels

inductive Button where
  | left | right | middle
  deriving DecidableEq, Repr, Inhabited

inductive MouseKind where
  | down (b : Button)
  | up (b : Button)
  | drag (b : Button)
  | moved
  | scrollUp
  | scrollDown
  deriving DecidableEq, Repr, Inhabited

structure MouseEvent where
  kind : MouseKind
  column : Nat
  row : Nat
  deriving DecidableEq, Repr, Inhabited

def MouseEvent.point (e : MouseEvent) : Point := ⟨e.column, e.row⟩

/-- Remembers the last press that can still become a double click. Times are in
milliseconds. -/
structure Router where
  /-- The longest time between the presses of a double click. -/
  interval : Nat := 400
  pending : Option (Nat × Point) := none
  deriving DecidableEq, Repr, Inhabited

namespace Router

/-- Whether a press at `p` completes a double click. A clock that goes back
counts as standing still. -/
def completes (r : Router) (p : Point) (now : Nat) : Bool :=
  match r.pending with
  | some (time, last) => last = p && now - time ≤ r.interval
  | none => false

def route (r : Router) (e : MouseEvent) (now : Nat) : Router × Option Action :=
  match e.kind with
  | .down .left =>
    -- The press that completes a double click does not begin another.
    if r.completes e.point now then ({ r with pending := none }, some (.doubleClick e.point))
    else ({ r with pending := some (now, e.point) }, some (.pointerDown e.point))
  | .drag .left => (r, some (.pointerMove e.point))
  | .up .left => (r, some .pointerUp)
  | _ => (r, none)

end Router

end FloatingPanels

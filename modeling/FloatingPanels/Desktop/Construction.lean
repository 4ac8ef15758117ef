import FloatingPanels.Desktop.Basic
/-!
# Construction of windows

A window is live from the moment it is built, while its panel's own code still
runs. That code can decline, fail, or have the window destroyed; each way the
window is gone afterwards and its creation fails.
-/

namespace FloatingPanels

/-- What a construction hook answers: whether it accepts, or that it failed. -/
abbrev Verdict := Except Failure Bool

abbrev Created := Except CreateError WindowId

namespace Desktop

/-- The rectangle of a new window: at the origin of the page, as large as its
content and the least size need. -/
def firstRect (d : Desktop) (f : Frame) : Rect :=
  let fit := f.fitSize d.settings.metrics
  (Rect.place d.page.origin
    ⟨max fit.width d.settings.least.width, max fit.height d.settings.least.height⟩).clamp
      d.page.viewport.width

def newWindow (d : Desktop) (spec : WindowSpec) (container : String) (f : Frame) : Window :=
  { id := ⟨d.issued + 1⟩, kind := spec.kind, container, rect := d.firstRect f, z := d.windows.length + 1
    caps := spec.caps, address := spec.address, frame := f }

/-- The desktop with a new window that is attached to a container, and its number. -/
def add (d : Desktop) (spec : WindowSpec) (container : String) (f : Frame) : Desktop × WindowId :=
  let w := d.newWindow spec container f
  ({ d with
      issued := d.issued + 1
      windows := d.windows ++ [w]
      addresses :=
        match spec.address with
        | some address => Keyed.set address w.id d.addresses
        | none => d.addresses
      page := d.page.attach container w.id }, w.id)

/-- The frame of a new window. Buttons, title and lock are as the wishes and the
desktop require. -/
def newFrame (d : Desktop) (spec : WindowSpec) (content : Element) : Except CreateError Frame :=
  match Frame.build d.chrome content spec.kind with
  | .error name => .error (.missingPart spec.kind name)
  | .ok f =>
    let f := (f.allow spec.caps).setTitle (spec.title.getD spec.kind)
    .ok (if d.gesture.isSome then f.lock true else f)

/-- Builds a window. The template of its kind counts as used even if that fails,
unless there is no container. -/
def instantiate (d : Desktop) (spec : WindowSpec) : Desktop × Created :=
  match d.page.resolve spec.parent with
  | none => (d, .error (.missingContainer spec.parent))
  | some container =>
    let (library, content) := d.library.fragment spec.kind
    let d := { d with library }
    match content with
    | none => (d, .error (.unknownTemplate spec.kind))
    | some (.error e) => (d, .error (.template spec.kind e))
    | some (.ok content) =>
      match d.newFrame spec content with
      | .error e => (d, .error e)
      | .ok f =>
        let (d, id) := d.add spec container f
        (d, .ok id)

def discard (d : Desktop) (id : WindowId) : Desktop :=
  match d.window? id with
  | some w => d.remove w
  | none => d

/-- What follows the construction hook of a window: an error, after which the
window is gone, or nothing yet. -/
def concludeHook (d : Desktop) (id : WindowId) (kind : String) (v : Verdict) :
    Desktop × Option CreateError :=
  -- What the hook says does not count for a window that is gone.
  if !d.isLive id then (d, some (.destroyed kind))
  else
    match v with
    | .ok true => (d, none)
    | .ok false => (d.discard id, some (.rejected kind))
    | .error failure => (d.discard id, some (.hookFailed kind failure))

/-- The end of a creation: the window is placed under its anchor, if it is known,
and counts as constructed if it is still live. -/
def complete (d : Desktop) (id : WindowId) (spec : WindowSpec) : Desktop × Created :=
  let d :=
    match spec.under with
    | none => d
    | some anchor =>
      match d.placeUnder id anchor with
      | .ok d => d
      | .error _ => d
  if d.isLive id then
    ({ (d.change id fun w => { w with constructed := true }) with lastCreated := some id }, .ok id)
  else (d, .error (.destroyed spec.kind))

end Desktop

end FloatingPanels

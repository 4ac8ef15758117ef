import FloatingPanels.Desktop.Pointer
/-!
# Actions

What hosts and panels do to a desktop in one step, through the operations of the
desktop. An action that answers `false` or an error leaves the desktop as it was.

Two things are no actions, and so no part of any run. Frames change only by the
actions below: code that gets hold of a frame and edits it at will, its
capabilities, its lock and all its elements included, is left out. And a widget is
torn down together with its window, which the journal notes (`Desktop.remove`),
but runs no code of its own then.
-/

namespace FloatingPanels

inductive Action where
  | registerTemplate (kind markup : String)
  | registerPreset (kind name : String) (data : Value)
  | setChrome (markup : String)
  | setSensitivity (n : Int)
  | setViewport (s : Size)
  | setAnchor (name : String) (rect : Rect)
  | destroy (id : WindowId)
  | close (id : WindowId)
  | bringToFront (id : WindowId)
  | maximize (id : WindowId)
  | normalize (id : WindowId)
  | hide (id : WindowId)
  | reveal (id : WindowId)
  | stick (id : WindowId)
  | unstick (id : WindowId)
  | toggleStick (id : WindowId)
  | fit (id : WindowId) (h : Handle)
  | placeUnder (id : WindowId) (anchor : String)
  | beginDrag (id : WindowId) (p : Point)
  | beginResize (id : WindowId) (h : Handle) (p : Point)
  | pointerMove (p : Point)
  | pointerUp
  | pointerDown (p : Point)
  | doubleClick (p : Point)
  | setTitle (id : WindowId) (title : String)
  | setError (id : WindowId) (message : Option String)
  | setAddress (id : WindowId) (address : String)
  | setContentText (id : WindowId) (name text : String)
  | embed (id : WindowId) (widget : String)
  | note (data : Value)
  deriving Repr, Inhabited

inductive Answer where
  | done
  /-- Whether anything was done. -/
  | flag (b : Bool)
  | refused (e : DesktopError)
  | malformed (e : TemplateError)
  deriving DecidableEq, Repr, Inhabited

namespace Answer

def ofOutcome (d : Desktop) : Desktop.Outcome → Desktop × Answer
  | .ok (d, b) => (d, flag b)
  | .error e => (d, refused e)

def ofDone (d : Desktop) : Except DesktopError Desktop → Desktop × Answer
  | .ok d => (d, done)
  | .error e => (d, refused e)

def ofFlag (r : Desktop × Bool) : Desktop × Answer := (r.1, flag r.2)

end Answer

open Answer in
def Desktop.perform (d : Desktop) : Action → Desktop × Answer
  | .registerTemplate kind markup => (d.registerTemplate kind markup, done)
  | .registerPreset kind name data => (d.registerPreset kind name data, done)
  | .setChrome markup =>
    match d.setChrome markup with
    | .ok d => (d, done)
    | .error e => (d, malformed e)
  | .setSensitivity n => (d.setSensitivity n, done)
  | .setViewport s => (d.setViewport s, done)
  | .setAnchor name rect => (d.setAnchor name rect, done)
  | .destroy id => ofDone d (d.destroy id)
  | .close id => ofOutcome d (d.close id)
  | .bringToFront id => ofOutcome d (d.bringToFront id)
  | .maximize id => ofOutcome d (d.maximize id)
  | .normalize id => ofOutcome d (d.normalize id)
  | .hide id => ofOutcome d (d.hide id)
  | .reveal id => ofOutcome d (d.reveal id)
  | .stick id => ofOutcome d (d.stick id)
  | .unstick id => ofOutcome d (d.unstick id)
  | .toggleStick id => ofOutcome d (d.toggleStick id)
  | .fit id h => ofOutcome d (d.fit id h)
  | .placeUnder id anchor => ofDone d (d.placeUnder id anchor)
  | .beginDrag id p => ofOutcome d (d.beginDrag id p)
  | .beginResize id h p => ofOutcome d (d.beginResize id h p)
  | .pointerMove p => ofFlag (d.pointerMove p)
  | .pointerUp => ofFlag d.pointerUp
  | .pointerDown p => ofFlag (d.pointerDown p)
  | .doubleClick p => ofFlag (d.doubleClick p)
  | .setTitle id title => ofFlag (d.setTitle id title)
  | .setError id message => ofFlag (d.setError id message)
  | .setAddress id address => ofFlag (d.setAddress id address)
  | .setContentText id name text => ofFlag (d.setContentText id name text)
  | .embed id widget => ofFlag (d.embed id widget)
  | .note data => (d.note data, done)

end FloatingPanels

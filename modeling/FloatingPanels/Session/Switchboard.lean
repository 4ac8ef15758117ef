import FloatingPanels.Session.Program
/-!
# Subscriptions

A window has at most one handler for a tag. While a handler is called it is
away: it cannot be called again, and only comes back if it has not been
unsubscribed or replaced in the meantime and its window is still live.
-/

namespace FloatingPanels

structure Line where
  id : WindowId
  tag : String
  deriving DecidableEq, Repr, Inhabited

/-- A handler that is away. -/
structure Call where
  line : Line
  ended : Bool := false
  deriving DecidableEq, Repr, Inhabited

structure Switchboard where
  handlers : Keyed Line Handler := []
  /-- The calls that are going on, the innermost first. -/
  calls : List Call := []
  deriving Inhabited

namespace Switchboard

def has (s : Switchboard) (l : Line) : Bool := s.handlers.hasKey l

def subscribe (s : Switchboard) (l : Line) (h : Handler) : Switchboard :=
  { s with handlers := Keyed.set l h s.handlers }

/-- The line of a call that is not ended yet. -/
def active (l : Line) (c : Call) : Bool := c.line = l && !c.ended

/-- Ends a subscription, also where its handler is away. The answer says whether
there was anything to end. -/
def unsubscribe (s : Switchboard) (l : Line) : Switchboard × Bool :=
  ({ handlers := Keyed.remove l s.handlers
     calls := s.calls.map fun c => if active l c then { c with ended := true } else c },
   s.has l || s.calls.any (active l))

/-- The handler of a line, taken away for a call. -/
def take? (s : Switchboard) (l : Line) : Option (Handler × Switchboard) :=
  (s.handlers.value? l).map fun h => (h, ⟨Keyed.remove l s.handlers, { line := l } :: s.calls⟩)

/-- The innermost call on a line, and the calls without it. -/
def endCall (l : Line) : List Call → Option Call × List Call
  | [] => (none, [])
  | c :: cs =>
    if c.line = l then (some c, cs)
    else
      let (found, rest) := endCall l cs
      (found, c :: rest)

def restore (s : Switchboard) (d : Desktop) (l : Line) (h : Handler) : Switchboard :=
  let (call, calls) := endCall l s.calls
  let ended := (call.map Call.ended).getD false
  { calls
    -- A replacement stays, and what was ended does not come back.
    handlers :=
      if ended || !d.isLive l.id || s.has l then s.handlers else Keyed.set l h s.handlers }

def forget (s : Switchboard) (gone : List WindowId) : Switchboard :=
  { s with handlers := s.handlers.filter fun e => e.1.id ∉ gone }

/-- The live windows with a handler for a tag, in the order of their numbers. -/
def subscribers (s : Switchboard) (d : Desktop) (tag : String) : List WindowId :=
  d.ids.filter fun id => s.has ⟨id, tag⟩

/-- The first of some windows whose handler for a tag can be called, its handler,
and the windows after it. -/
def nextTarget (s : Switchboard) (tag : String) :
    List WindowId → Option (WindowId × Handler × Switchboard × List WindowId)
  | [] => none
  | id :: ids =>
    match s.take? ⟨id, tag⟩ with
    | some (h, s) => some (id, h, s, ids)
    | none => nextTarget s tag ids

end Switchboard

end FloatingPanels

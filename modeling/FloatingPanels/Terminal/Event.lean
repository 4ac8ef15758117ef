import FloatingPanels.Mouse
/-!
# Terminal events

What a terminal tells a program. A script is a list of events that are still to
come.
-/

namespace FloatingPanels

inductive Key where
  | char (c : Char)
  | tab
  | escape
  | enter
  | up
  deriving DecidableEq, Repr, Inhabited

inductive KeyMotion where
  | press | release | repeated
  deriving DecidableEq, Repr, Inhabited

inductive Event where
  | key (k : Key) (motion : KeyMotion)
  | mouse (e : MouseEvent)
  | resize (columns rows : Nat)
  | paste (text : String)
  | focus
  deriving DecidableEq, Repr, Inhabited

/-- Events that are still to come, the next one first. -/
abbrev Script := List Event

inductive ReadError where
  | exhausted
  deriving DecidableEq, Repr, Inhabited

def ReadError.message : ReadError → String
  | exhausted => "script exhausted"

namespace Script

def ready (s : Script) : Bool := !s.isEmpty

def read : Script → Except ReadError (Event × Script)
  | [] => .error .exhausted
  | e :: s => .ok (e, s)

end Script

end FloatingPanels

/-!
# Capabilities

What a user may do with a window. A window's capabilities are fixed when it is
created, and it has all of them unless some are denied.
-/

namespace FloatingPanels

inductive Capability where
  | close | hide | maximize | stick | cling
  deriving DecidableEq, Repr, Inhabited

def Capability.all : List Capability := [.close, .hide, .maximize, .stick, .cling]

/-- A set of capabilities, by membership. -/
structure Capabilities where
  close : Bool := true
  hide : Bool := true
  maximize : Bool := true
  stick : Bool := true
  /-- Whether the window is pulled to other windows and pulls them. -/
  cling : Bool := true
  deriving DecidableEq, Repr, Inhabited

namespace Capabilities

def has (s : Capabilities) : Capability → Bool
  | .close => s.close
  | .hide => s.hide
  | .maximize => s.maximize
  | .stick => s.stick
  | .cling => s.cling

def toList (s : Capabilities) : List Capability := Capability.all.filter s.has

def ofList (l : List Capability) : Capabilities :=
  ⟨l.contains .close, l.contains .hide, l.contains .maximize, l.contains .stick, l.contains .cling⟩

end Capabilities

end FloatingPanels

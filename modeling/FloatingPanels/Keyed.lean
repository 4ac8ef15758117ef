/-!
# Keyed lists

A list of pairs with distinct keys, in the order in which the keys were first
set. Setting a key that is there changes its value in place.
-/

namespace FloatingPanels

/-- Values by key, in the order in which the keys came. -/
abbrev Keyed (κ α : Type) := List (κ × α)

namespace Keyed

variable {κ α : Type} [DecidableEq κ]

def value? (l : Keyed κ α) (k : κ) : Option α := (l.find? fun e => e.1 = k).map Prod.snd

def hasKey (l : Keyed κ α) (k : κ) : Bool := l.any fun e => e.1 = k

def keys (l : Keyed κ α) : List κ := l.map Prod.fst

def set (k : κ) (a : α) : Keyed κ α → Keyed κ α
  | [] => [(k, a)]
  | e :: l => if e.1 = k then (k, a) :: l else e :: set k a l

def update (k : κ) (f : α → α) (l : Keyed κ α) : Keyed κ α :=
  l.map fun e => if e.1 = k then (e.1, f e.2) else e

def remove (k : κ) (l : Keyed κ α) : Keyed κ α := l.filter fun e => e.1 ≠ k

/-- The keys of a list with text keys, in the order of their characters. -/
def sortedKeys (l : Keyed String α) : List String := (keys l).mergeSort fun a b => a ≤ b

end Keyed

end FloatingPanels

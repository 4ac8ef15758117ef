/-!
# Plain data

The data that hosts hand to panels and panels to each other: parameters,
presets, and the payloads of broadcasts.
-/

namespace FloatingPanels

inductive Value where
  | null
  | bool (b : Bool)
  | int (n : Int)
  | text (s : String)
  | list (items : List Value)
  | record (fields : List (String × Value))
  deriving BEq, Repr, Inhabited

namespace Value

/-- A field of a record; `null` where there is none. -/
def field (name : String) : Value → Value
  | record fields => ((fields.find? fun f => f.1 = name).map Prod.snd).getD null
  | _ => null

def count? : Value → Option Nat
  | int n => if 0 ≤ n then some n.toNat else none
  | _ => none

def text? : Value → Option String
  | text s => some s
  | _ => none

end Value

end FloatingPanels

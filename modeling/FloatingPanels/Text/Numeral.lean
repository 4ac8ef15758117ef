/-!
# Decimal numerals

An integer is written as one or more decimal digits after an optional sign, and
it has to fit a signed 32-bit word.
-/

namespace FloatingPanels

namespace Numeral

/-- The value of a non-empty sequence of decimal digits. -/
def digits? (s : List Char) : Option Nat :=
  if s.isEmpty || !s.all Char.isDigit then none
  else some (s.foldl (fun n c => 10 * n + (c.toNat - '0'.toNat)) 0)

def integer? : List Char → Option Int
  | '-' :: s => (digits? s).map fun n => -(n : Int)
  | '+' :: s => (digits? s).map Int.ofNat
  | s => (digits? s).map Int.ofNat

def fitsWord (n : Int) : Bool := -0x80000000 ≤ n && n < 0x80000000

/-- The value of a numeral that fits a signed 32-bit word. -/
def word? (s : String) : Option Int := (integer? s.toList).filter fitsWord

end Numeral

end FloatingPanels

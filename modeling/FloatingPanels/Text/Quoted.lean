import FloatingPanels.Text.Combining
import FloatingPanels.Text.Shapeless
/-!
# Quoted text

A text in messages stands between double quotes. Quotes, backslashes and the
usual control characters in it are written with a backslash; other characters
without a shape and combining characters as their code point in hexadecimal.
-/

namespace FloatingPanels

namespace Quoted

def character : Char → List Char
  | '"' => ['\\', '"']
  | '\\' => ['\\', '\\']
  | '\n' => ['\\', 'n']
  | '\r' => ['\\', 'r']
  | '\t' => ['\\', 't']
  | '\x00' => ['\\', '0']
  | ' ' => [' ']
  | c =>
    if isShapeless c || isCombining c then
      ['\\', 'u', '\x7b'] ++ Nat.toDigits 16 c.toNat ++ ['\x7d']
    else [c]

def text (s : String) : String :=
  "\"" ++ String.ofList (s.toList.flatMap character) ++ "\""

def optional : Option String → String
  | none => "None"
  | some s => "Some(" ++ text s ++ ")"

end Quoted

end FloatingPanels

import FloatingPanels.Text.Quoted
/-!
# Faults of a template's markup
-/

namespace FloatingPanels

inductive TemplateError where
  | empty
  | multipleRoots (count : Nat)
  | textRoot
  /-- The tag that starts at a byte does not end, or has no name. -/
  | unterminatedTag (position : Nat)
  /-- The quoted value of an attribute does not end. -/
  | unterminatedAttr (name : String)
  | unterminatedComment
  | unclosed (tag : String)
  /-- An end tag does not belong to the innermost open element. -/
  | mismatched (expected : Option String) (found : String)
  deriving DecidableEq, Repr, Inhabited

def TemplateError.message : TemplateError → String
  | empty => "template is empty"
  | multipleRoots count => s!"template must have a single root element, found {count}"
  | textRoot => "template root must be an element"
  | unterminatedTag position => s!"unterminated tag at byte {position}"
  | unterminatedAttr name => "unterminated attribute value for `" ++ name ++ "`"
  | unterminatedComment => "unterminated comment"
  | unclosed tag => "unclosed element <" ++ tag ++ ">"
  | mismatched expected found =>
    "mismatched closing tag </" ++ found ++ "> (expected " ++ Quoted.optional expected ++ ")"

end FloatingPanels

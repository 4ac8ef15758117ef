import FloatingPanels.Markup.Token
/-!
# Fragments

A fragment of markup has exactly one element at the top. Its tree is built from
the tokens with a stack of the elements that are still open; every end tag has
to name the innermost of them.
-/

namespace FloatingPanels

namespace Fragment

/-- An element whose end tag has not come yet, with the siblings before it. -/
structure Unfinished where
  tag : String
  attrs : Attrs
  before : Nodes
  deriving DecidableEq, Repr

/-- The nodes that the tokens make, after `siblings` inside the open elements
`stack`. When the tokens run out, `fault` is what stopped them. -/
def nodes (fault : Option TemplateError) (stack : List Unfinished) (siblings : Nodes) :
    List Token → Except TemplateError Nodes
  | [] =>
    match fault, stack with
    | some e, _ => .error e
    | none, [] => .ok siblings
    | none, top :: _ => .error (.unclosed top.tag)
  | .text content :: ts => nodes fault stack (siblings ++ .text content .nil) ts
  | .start tag attrs leaf :: ts =>
    if leaf then nodes fault stack (siblings ++ .element tag attrs .nil .nil) ts
    else nodes fault (⟨tag, attrs, siblings⟩ :: stack) .nil ts
  | .stop name :: ts =>
    match stack with
    | [] => .error (.mismatched none name)
    | top :: stack =>
      if top.tag = name then
        nodes fault stack (top.before ++ .element top.tag top.attrs siblings .nil) ts
      else .error (.mismatched (some top.tag) name)

def root : Nodes → Except TemplateError Element
  | .nil => .error .empty
  | .element tag attrs children .nil => .ok ⟨tag, attrs, children⟩
  | .text _ .nil => .error .textRoot
  | ns => .error (.multipleRoots ns.length)

def parse (source : String) : Except TemplateError Element := do
  let (ts, fault) := Token.tokens source
  root (← nodes fault [] .nil ts)

end Fragment

end FloatingPanels

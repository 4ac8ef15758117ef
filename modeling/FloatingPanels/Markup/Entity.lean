/-!
# Character entities

Six entities stand for characters in texts and attribute values. `&amp;` is
replaced last, so that an entity spelled out with it is not decoded again.
-/

namespace FloatingPanels

namespace Entity

/-- A text in which `c` stands for `pattern` wherever it occurs, from left to
right. The first `skip` characters are left out, as part of an occurrence. -/
def replaceFrom (pattern : List Char) (c : Char) : Nat → List Char → List Char
  | _, [] => []
  | skip + 1, _ :: s => replaceFrom pattern c skip s
  | 0, d :: s =>
    if pattern.isPrefixOf (d :: s) then c :: replaceFrom pattern c (pattern.length - 1) s
    else d :: replaceFrom pattern c 0 s

def replace (pattern : String) (c : Char) (s : List Char) : List Char :=
  replaceFrom pattern.toList c 0 s

/-- The entities and their characters, in the order in which they are decoded. -/
def table : List (String × Char) :=
  [("&lt;", '<'), ("&gt;", '>'), ("&quot;", '"'), ("&#39;", '\''), ("&nbsp;", ' '), ("&amp;", '&')]

def decode (s : List Char) : List Char :=
  table.foldl (fun s (pattern, c) => replace pattern c s) s

end Entity

end FloatingPanels

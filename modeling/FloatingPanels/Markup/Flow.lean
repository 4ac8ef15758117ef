import FloatingPanels.Geometry
import FloatingPanels.Markup.Nodes
import FloatingPanels.Text.Numeral
/-!
# Rows of text

A tree is shown as rows of words. Texts and inline elements continue the row,
any other element starts rows of its own, and hidden elements are left out. In
a `pre` element a line break ends the row, elsewhere it is a blank like others.
-/

namespace FloatingPanels

/-- Rows of words: those that are complete, and the one that goes on. -/
structure Flow where
  rows : List (List (List Char)) := []
  row : List (List Char) := []
  deriving DecidableEq, Repr

namespace Flow

def inlineTags : List String :=
  ["a", "b", "button", "code", "em", "i", "input", "label", "span", "strong"]

def addWords (ws : List (List Char)) (f : Flow) : Flow := { f with row := f.row ++ ws }

/-- The row is complete, even without words. -/
def endRow (f : Flow) : Flow := ⟨f.rows ++ [f.row], []⟩

/-- All rows; the last one only if it has words. -/
def finish (f : Flow) : List (List (List Char)) :=
  if f.row.isEmpty then f.rows else f.rows ++ [f.row]

/-- The lines of a text, one after the other. -/
def addLines (preformatted : Bool) (f : Flow) : List (List Char) → Flow
  | [] => f
  | [line] => f.addWords (words line)
  | line :: lines =>
    let f := f.addWords (words line)
    addLines preformatted (if preformatted then f.endRow else f) lines

def addText (preformatted : Bool) (content : String) (f : Flow) : Flow :=
  f.addLines preformatted (splitOn (· = '\n') content.toList)

end Flow

/-- The flow continued with nodes that stand in a `pre` element or not. Of an
inline element only its last row goes on. -/
def Nodes.flow (preformatted : Bool) (f : Flow) : Nodes → Flow
  | nil => f
  | text content rest => rest.flow preformatted (f.addText preformatted content)
  | element tag attrs children rest =>
    let inner := children.flow (tag = "pre") {}
    rest.flow preformatted
      (if attrs.isHidden then f
        -- The rows that are complete inside an inline element are lost.
        else if Flow.inlineTags.contains tag then f.addWords inner.row
        else ⟨f.finish ++ inner.finish, []⟩)

namespace Element

def rows (e : Element) : List (List (List Char)) :=
  (e.children.flow (e.tag = "pre") {}).finish

def textLines (e : Element) : List String := e.rows.map fun ws => String.ofList (unwords ws)

/-- The size given by the attributes `width` and `height`, where they are
numerals, and else by the longest row and the number of rows. -/
def naturalSize (e : Element) : Size :=
  let lines := e.textLines
  ⟨((e.attr "width").bind Numeral.word?).getD ((lines.map String.length).foldl max 0 : Nat),
   ((e.attr "height").bind Numeral.word?).getD lines.length⟩

end Element

end FloatingPanels

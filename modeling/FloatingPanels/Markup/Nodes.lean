import FloatingPanels.Keyed
import FloatingPanels.Text.Blank
/-!
# Markup trees

An element has a tag, attributes with distinct names, and children. `Nodes` is
the sequence of an element's children: texts and elements in document order.
The classes of an element are the words of its attribute `class`.
-/

namespace FloatingPanels

/-- Attribute values by name, in the order in which the names came. -/
abbrev Attrs := Keyed String String

namespace Attrs

def hasClass (attrs : Attrs) (name : String) : Bool :=
  match attrs.value? "class" with
  | some names => (words names.toList).contains name.toList
  | none => false

/-- An element is hidden when it has the attribute `hidden`, whatever its value. -/
def isHidden (attrs : Attrs) : Bool := (attrs.value? "hidden").isSome

end Attrs

inductive Nodes where
  | nil
  | text (content : String) (rest : Nodes)
  | element (tag : String) (attrs : Attrs) (children rest : Nodes)
  deriving DecidableEq, Repr, Inhabited

structure Element where
  tag : String
  attrs : Attrs := []
  children : Nodes := .nil
  deriving DecidableEq, Repr, Inhabited

namespace Nodes

def append : Nodes → Nodes → Nodes
  | nil, ns => ns
  | text content rest, ns => text content (rest.append ns)
  | element tag attrs children rest, ns => element tag attrs children (rest.append ns)

instance : Append Nodes := ⟨append⟩

def ofElement (e : Element) : Nodes := element e.tag e.attrs e.children nil

def length : Nodes → Nat
  | nil => 0
  | text _ rest => rest.length + 1
  | element _ _ _ rest => rest.length + 1

def elements : Nodes → List Element
  | nil => []
  | text _ rest => rest.elements
  | element tag attrs children rest => ⟨tag, attrs, children⟩ :: rest.elements

/-- All text below, without anything between. -/
def allText : Nodes → String
  | nil => ""
  | text content rest => content ++ rest.allText
  | element _ _ children rest => children.allText ++ rest.allText

def findClass (name : String) : Nodes → Option Element
  | nil => none
  | text _ rest => rest.findClass name
  | element tag attrs children rest =>
    if attrs.hasClass name then some ⟨tag, attrs, children⟩
    else (children.findClass name).or (rest.findClass name)

/-- The nodes with the first element of a class changed, if there is one. -/
def changeClass? (name : String) (f : Element → Element) : Nodes → Option Nodes
  | nil => none
  | text content rest => (rest.changeClass? name f).map (text content)
  | element tag attrs children rest =>
    if attrs.hasClass name then
      let e := f ⟨tag, attrs, children⟩
      some (element e.tag e.attrs e.children rest)
    else
      match children.changeClass? name f with
      | some children => some (element tag attrs children rest)
      | none => (rest.changeClass? name f).map (element tag attrs children)

end Nodes

namespace Element

def attr (e : Element) (name : String) : Option String := e.attrs.value? name

def setAttr (e : Element) (name value : String) : Element :=
  { e with attrs := Keyed.set name value e.attrs }

def removeAttr (e : Element) (name : String) : Element :=
  { e with attrs := Keyed.remove name e.attrs }

def hasClass (e : Element) (name : String) : Bool := e.attrs.hasClass name

def isHidden (e : Element) : Bool := e.attrs.isHidden

def setHidden (e : Element) (hidden : Bool) : Element :=
  if hidden then e.setAttr "hidden" "" else e.removeAttr "hidden"

def findClass (e : Element) (name : String) : Option Element :=
  if e.hasClass name then some e else e.children.findClass name

def changeClass? (e : Element) (name : String) (f : Element → Element) : Option Element :=
  if e.hasClass name then some (f e)
  else (e.children.changeClass? name f).map fun children => { e with children }

def changeClass (e : Element) (name : String) (f : Element → Element) : Element :=
  (e.changeClass? name f).getD e

def setText (e : Element) (content : String) : Element :=
  { e with children := .text content .nil }

def text (e : Element) : String := e.children.allText

def append (e : Element) (nodes : Nodes) : Element := { e with children := e.children ++ nodes }

end Element

end FloatingPanels

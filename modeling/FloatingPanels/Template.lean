import FloatingPanels.Keyed
import FloatingPanels.Markup.Fragment
import FloatingPanels.Value
/-!
# Templates

The markup and the presets of each kind of panel. Markup is parsed when it is
first needed, and the result, which may be an error, is kept until the kind is
registered again.
-/

namespace FloatingPanels

/-- The markup of a kind, and what it was parsed to. -/
structure Template where
  markup : String
  parsed : Option (Except TemplateError Element) := none
  deriving Inhabited

structure Library where
  templates : Keyed String Template := []
  presets : Keyed String (Keyed String Value) := []
  deriving Inhabited

namespace Library

def register (l : Library) (kind markup : String) : Library :=
  { l with templates := Keyed.set kind { markup } l.templates }

def registerPreset (l : Library) (kind name : String) (data : Value) : Library :=
  let own := (l.presets.value? kind).getD []
  { l with presets := Keyed.set kind (Keyed.set name data own) l.presets }

def contains (l : Library) (kind : String) : Bool := l.templates.hasKey kind

def markup? (l : Library) (kind : String) : Option String :=
  (l.templates.value? kind).map Template.markup

def isParsed (l : Library) (kind : String) : Bool :=
  match l.templates.value? kind with
  | some t => t.parsed.isSome
  | none => false

/-- The tree of a kind, if the kind is registered, and the library with its
template parsed. -/
def fragment (l : Library) (kind : String) : Library × Option (Except TemplateError Element) :=
  match l.templates.value? kind with
  | none => (l, none)
  | some t =>
    match t.parsed with
    | some r => (l, some r)
    | none =>
      let r := Fragment.parse t.markup
      ({ l with templates := Keyed.set kind { t with parsed := some r } l.templates }, some r)

def preset? (l : Library) (kind name : String) : Option Value :=
  (l.presets.value? kind).bind fun own => Keyed.value? own name

/-- The names of a kind's presets in the order of their characters. -/
def presetNames (l : Library) (kind : String) : List String :=
  Keyed.sortedKeys ((l.presets.value? kind).getD [])

def kinds (l : Library) : List String := l.templates.sortedKeys

end Library

end FloatingPanels

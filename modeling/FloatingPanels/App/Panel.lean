import FloatingPanels.Session.Machine
/-!
# Panels

The three panels that the launcher offers: notes, which tell how many windows
there were when they were opened; applications, which count refreshes; and a
single window about the program.
-/

namespace FloatingPanels

inductive Panel where
  | notes | apps | about
  deriving DecidableEq, Repr, Inhabited

namespace Panel

def all : List Panel := [.notes, .apps, .about]

/-- The panel in a row of the launcher, counted from zero. -/
def atRow (row : Int) : Option Panel := if row < 0 then none else all[row.toNat]?

def kind : Panel → String
  | notes => "notes"
  | apps => "apps"
  | about => "about"

def title : Panel → String
  | notes => "Notes"
  | apps => "Apps"
  | about => "About"

def markup : Panel → String
  | notes =>
    "<div class=\"notes\" width=\"28\">\n" ++
    "  <p class=\"body\">Scratch space.</p>\n" ++
    "  <p>Drag the title, pull an edge.</p>\n" ++
    "</div>\n"
  | apps =>
    "<div class=\"apps\" width=\"24\">\n" ++
    "  <p class=\"count\">no refresh yet</p>\n" ++
    "  <p>press r to refresh</p>\n" ++
    "</div>\n"
  | about =>
    "<div class=\"about\">\n" ++
    "  <p>panel-wm</p>\n" ++
    "  <p>floating panels in a terminal</p>\n" ++
    "</div>\n"

def usualPreset : String := "default"

def refreshTag : String := "refresh"

def aboutAddress : String := "about"

def refreshPayload (round : Nat) : Value := .record [("round", .int round)]

def notesHook (params : Value) (id : WindowId) : Program :=
  let opened := ((params.field "opened").count?).getD 0
  .then_ (.setContentText id "body" s!"Scratch space #{opened + 1}.") .accept

/-- Shows the number of each refresh after the filter of the preset. -/
def appsHook (id : WindowId) : Program :=
  .look fun d =>
    let filter :=
      ((d.library.preset? apps.kind usualPreset).bind fun p => (p.field "filter").text?).getD ""
    .subscribe id refreshTag
      (fun payload _ =>
        let round := ((payload.field "round").count?).getD 0
        .then_ (.setContentText id "count" s!"{filter}: refresh #{round}") .accept)
      fun _ => .accept

/-- Makes way for a window about the program that is there already. -/
def aboutHook (id : WindowId) : Program :=
  .look fun d =>
    match d.byAddress aboutAddress with
    | some existing =>
      .act (.bringToFront existing) fun answer =>
        match answer with
        | .refused e => .fail ⟨e.message, []⟩
        | _ => .reject
    | none => .then_ (.setAddress id aboutAddress) .accept

def hook (params : Value) : Panel → WindowId → Program
  | notes => notesHook params
  | apps => appsHook
  | about => aboutHook

/-- A window for a panel; `cling` is whether it clings, `opened` the number of
windows there are. -/
def creation (p : Panel) (cling : Bool) (opened : Nat) : Creation :=
  let params : Value := .record [("opened", .int opened)]
  .mk
    { kind := p.kind, title := some p.title, params
      caps := { cling, maximize := p ≠ about } }
    (p.hook params) fun _ => .accept

def install (d : Desktop) : Desktop :=
  (all.foldl (fun d p => d.registerTemplate p.kind p.markup) d).registerPreset apps.kind usualPreset
    (.record [("filter", .text "all")])

end Panel

end FloatingPanels

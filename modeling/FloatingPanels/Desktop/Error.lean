import FloatingPanels.Markup.Error
import FloatingPanels.Page
/-!
# What can go wrong on a desktop
-/

namespace FloatingPanels

inductive DesktopError where
  | notLive (id : WindowId)
  | unknownAnchor (name : String)
  deriving DecidableEq, Repr, Inhabited

def DesktopError.message : DesktopError → String
  | notLive id => s!"view {id.text} is not live"
  | unknownAnchor name => "unknown anchor `" ++ name ++ "`"

/-- The failure of a panel's own code, with what led to it. -/
structure Failure where
  message : String
  causes : List String := []
  deriving DecidableEq, Repr, Inhabited

def Failure.within (f : Failure) (message : String) : Failure :=
  ⟨message, f.message :: f.causes⟩

inductive CreateError where
  | missingContainer (requested : Option String)
  | unknownTemplate (kind : String)
  | template (kind : String) (cause : TemplateError)
  /-- Neither chrome nor content has an element of a class that frames need. -/
  | missingPart (kind : String) (name : String)
  | rejected (kind : String)
  | hookFailed (kind : String) (failure : Failure)
  /-- The window was destroyed before it was complete. -/
  | destroyed (kind : String)
  deriving DecidableEq, Repr, Inhabited

def CreateError.message : CreateError → String
  | missingContainer requested =>
    "no parent container resolved (requested " ++ Quoted.optional requested ++ ")"
  | unknownTemplate kind => "no template registered for view type `" ++ kind ++ "`"
  | template kind cause => "template for `" ++ kind ++ "` is invalid: " ++ cause.message
  | missingPart kind name =>
    "frame for `" ++ kind ++ "` is missing required element `." ++ name ++ "`"
  | rejected kind => "view `" ++ kind ++ "` rejected construction"
  | hookFailed kind failure => "view `" ++ kind ++ "` failed to construct: " ++ failure.message
  | destroyed kind => "view `" ++ kind ++ "` was destroyed before construction completed"

end FloatingPanels

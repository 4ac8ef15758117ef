import FloatingPanels.Desktop.Action
import FloatingPanels.Desktop.Construction
/-!
# Programs of panels and hosts

The code of panels (construction hooks, callbacks after creation, handlers of
broadcasts) and of hosts is a program: a tree of requests to the session, in
which every request is continued with its answer. So a program can do all that
code can do with what it is told, and nothing else. It waits for each answer: the
handlers that a request calls and the creations that it begins have ended by then.
-/

namespace FloatingPanels

mutual

/-- Code that deals with a session step by step. -/
inductive Program where
  /-- The end. The verdict matters only at the end of a construction hook. -/
  | done (verdict : Verdict)
  | look (next : Desktop → Program)
  | act (action : Action) (next : Answer → Program)
  /-- Sets the handler of a window for a tag; false if the window is not live. -/
  | subscribe (id : WindowId) (tag : String) (handler : Value → Value → Program)
      (next : Bool → Program)
  /-- Ends a subscription; true if there was one. -/
  | unsubscribe (id : WindowId) (tag : String) (next : Bool → Program)
  /-- Calls the handlers for a tag and tells how many were called. -/
  | broadcast (tag : String) (payload extra : Value) (next : Nat → Program)
  /-- Creates windows at the same time and tells what came of each, when all of
  them have ended. -/
  | create (creations : List Creation) (next : List Created → Program)
  /-- Lets the other creations of the same request go on first. A construction
  hook that has asked for this creation pauses with it. Outside a construction
  hook it does nothing. -/
  | pause (next : Program)

/-- A window to create: the wishes for it, its construction hook, and what runs
once the hook has accepted. -/
inductive Creation where
  | mk (spec : WindowSpec) (hook : WindowId → Program) (post : WindowId → Program)

end

/-- A program for a tag: what to do with the payload and the extra data. -/
abbrev Handler := Value → Value → Program

namespace Program

def accept : Program := .done (.ok true)

def reject : Program := .done (.ok false)

def fail (failure : Failure) : Program := .done (.error failure)

instance : Inhabited Program := ⟨accept⟩

/-- One action, whatever its answer, before the rest of a program. -/
def then_ (action : Action) (next : Program) : Program := .act action fun _ => next

end Program

namespace Creation

def spec : Creation → WindowSpec
  | mk spec _ _ => spec

def hook : Creation → WindowId → Program
  | mk _ hook _ => hook

def post : Creation → WindowId → Program
  | mk _ _ post => post

def passive (spec : WindowSpec) : Creation := mk spec (fun _ => .accept) fun _ => .accept

instance : Inhabited Creation := ⟨passive default⟩

end Creation

end FloatingPanels

import FloatingPanels.Terminal.Event
/-!
# The event loop

The loop calls a handler with a tick, then with every event that is there, then
with a tick again. It ends when the handler quits or fails, or when an event
cannot be read.
-/

namespace FloatingPanels

inductive Decision where
  | proceed | quit
  deriving DecidableEq, Repr, Inhabited

/-- A handler with a state, called with an event or, for a tick, with none. -/
abbrev Reaction (σ ε : Type) := Option Event → σ → σ × Except ε Decision

inductive Ending (ε : Type) where
  | quit
  | failed (e : ε)
  | unreadable (e : ReadError)
  deriving Repr, Inhabited

namespace EventLoop

inductive Phase (ε : Type) where
  | tick
  | event
  | ended (how : Ending ε)
  deriving Repr, Inhabited

/-- A moment of a loop over a script. -/
structure Moment (σ ε : Type) where
  state : σ
  script : Script
  phase : Phase ε := .tick
  deriving Repr, Inhabited

variable {σ ε : Type}

/-- What follows a call, with this script still to come. -/
def after (script : Script) : Except ε Decision → Phase ε
  | .error e => .ended (.failed e)
  | .ok .quit => .ended .quit
  | .ok .proceed => if script.ready then .event else .tick

def step (react : Reaction σ ε) (m : Moment σ ε) : Moment σ ε :=
  match m.phase with
  | .ended _ => m
  | .tick =>
    let (state, answer) := react none m.state
    ⟨state, m.script, after m.script answer⟩
  | .event =>
    match m.script.read with
    | .error e => { m with phase := .ended (.unreadable e) }
    | .ok (event, script) =>
      let (state, answer) := react (some event) m.state
      ⟨state, script, after script answer⟩

/-- The end of a loop of at most `limit` calls: how it ended, the last state, and
the events that are left. -/
def run? (react : Reaction σ ε) : Nat → Moment σ ε → Option (Ending ε × σ × Script)
  | _, ⟨state, script, .ended how⟩ => some (how, state, script)
  | 0, _ => none
  | limit + 1, m => run? react limit (step react m)

end EventLoop

end FloatingPanels

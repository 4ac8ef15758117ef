import FloatingPanels.Session.Switchboard
/-!
# Sessions

A session runs programs on a desktop, one request at a time. What waits for a
program to end, such as the rest of a broadcast or of a creation, stands on a
stack, so that every moment of a run is a `Machine` of its own and `Machine.step`
goes from one to the next. Programs may call each other without end; a run is
therefore bounded by a number of steps.

Creations go on side by side only if one request has begun them together, or if
they were begun by hooks of such creations. A host that begins a creation, leaves
it waiting, and begins another one by a request of its own, so that the second may
outlast the first, is left out: none of its runs is a run of a `Machine`.
-/

namespace FloatingPanels

structure Session where
  desktop : Desktop
  switchboard : Switchboard := {}
  deriving Inhabited

namespace Session

/-- What an operation has made of the desktop; the windows that it removed lose
their handlers. -/
def withDesktop (s : Session) (d : Desktop) : Session :=
  ⟨d, s.switchboard.forget (s.desktop.ids.filter fun id => !d.isLive id)⟩

def perform (s : Session) (action : Action) : Session × Answer :=
  let (d, answer) := s.desktop.perform action
  (s.withDesktop d, answer)

end Session

structure Delivery where
  tag : String
  payload : Value
  extra : Value
  /-- The windows whose turn is still to come. -/
  targets : List WindowId
  count : Nat
  next : Nat → Program

inductive Slot where
  | waiting (c : Creation)
  /-- Its hook has paused before the rest of its program. -/
  | paused (c : Creation) (id : WindowId) (rest : Program)
  /-- Its hook has asked for creations, of which some have paused. -/
  | awaiting (c : Creation) (id : WindowId) (inner : List Slot) (next : List Created → Program)
  | ended (r : Created)

/-- Creations that go on in turns: in a round each of them runs until it pauses or
ends. -/
structure Round where
  /-- Those that have had their turn in this round. -/
  before : List Slot
  /-- Those whose turn is still to come. -/
  after : List Slot
  next : List Created → Program

/-- What goes on when the running program ends. -/
inductive Waiting where
  | hook (c : Creation) (id : WindowId) (r : Round)
  | post (c : Creation) (id : WindowId) (r : Round)
  | call (l : Line) (h : Handler) (d : Delivery)

inductive Phase where
  | run (p : Program)
  | deliver (d : Delivery)
  | turn (r : Round)
  | stop (v : Verdict)

structure Machine where
  session : Session
  phase : Phase
  stack : List Waiting := []

namespace Round

def first (slots : List Slot) (next : List Created → Program) : Round := ⟨[], slots, next⟩

def had (r : Round) (s : Slot) : Round := { r with before := r.before ++ [s] }

def again (r : Round) : Round := first r.before r.next

end Round

def Slot.results : List Slot → Option (List Created)
  | [] => some []
  | ended r :: slots => (results slots).map (r :: ·)
  | _ => none

namespace Machine

def start (s : Session) (p : Program) : Machine := ⟨s, .run p, []⟩

def desktop (m : Machine) : Desktop := m.session.desktop

def isStopped (m : Machine) : Bool :=
  match m.phase with
  | .stop _ => true
  | _ => false

def withDesktop (m : Machine) (d : Desktop) : Machine :=
  { m with session := m.session.withDesktop d }

def withSwitchboard (m : Machine) (s : Switchboard) : Machine :=
  { m with session := { m.session with switchboard := s } }

def goto (m : Machine) (phase : Phase) : Machine := { m with phase }

def created (m : Machine) (r : Round) (result : Created) : Machine :=
  m.goto (.turn (r.had (.ended result)))

def hookEnded (m : Machine) (c : Creation) (id : WindowId) (r : Round) (v : Verdict) : Machine :=
  let (d, error) := m.desktop.concludeHook id c.spec.kind v
  let m := m.withDesktop d
  match error with
  | some e => m.created r (.error e)
  | none => { m with phase := .run (c.post id), stack := .post c id r :: m.stack }

def postEnded (m : Machine) (c : Creation) (id : WindowId) (r : Round) : Machine :=
  let (d, result) := m.desktop.complete id c.spec
  (m.withDesktop d).created r result

def callEnded (m : Machine) (l : Line) (h : Handler) (d : Delivery) : Machine :=
  (m.withSwitchboard (m.session.switchboard.restore m.desktop l h)).goto
    (.deliver { d with count := d.count + 1 })

def programEnded (m : Machine) (v : Verdict) : Machine :=
  match m.stack with
  | [] => m.goto (.stop v)
  | .hook c id r :: stack => { m with stack }.hookEnded c id r v
  | .post c id r :: stack => { m with stack }.postEnded c id r
  | .call l h d :: stack => { m with stack }.callEnded l h d

/-- A program pauses: if it is a construction hook, its turn is over. -/
def paused (m : Machine) (rest : Program) : Machine :=
  match m.stack with
  | .hook c id r :: stack => ⟨m.session, .turn (r.had (.paused c id rest)), stack⟩
  -- Callbacks and handlers are not interrupted.
  | _ => m.goto (.run rest)

def request (m : Machine) : Program → Machine
  | .done v => m.programEnded v
  | .look next => m.goto (.run (next m.desktop))
  | .act action next =>
    let (session, answer) := m.session.perform action
    { m with session, phase := .run (next answer) }
  | .subscribe id tag handler next =>
    if m.desktop.isLive id then
      let switchboard := m.session.switchboard.subscribe ⟨id, tag⟩ handler
      (m.withSwitchboard switchboard).goto (.run (next true))
    else m.goto (.run (next false))
  | .unsubscribe id tag next =>
    let (s, b) := m.session.switchboard.unsubscribe ⟨id, tag⟩
    (m.withSwitchboard s).goto (.run (next b))
  | .broadcast tag payload extra next =>
    let targets := m.session.switchboard.subscribers m.desktop tag
    -- The targets are fixed before the first handler is called.
    m.goto (.deliver { tag, payload, extra, targets, count := 0, next })
  | .create creations next => m.goto (.turn (.first (creations.map .waiting) next))
  | .pause rest => m.paused rest

def deliver (m : Machine) (d : Delivery) : Machine :=
  match m.session.switchboard.nextTarget d.tag d.targets with
  | none => m.goto (.run (d.next d.count))
  | some (id, h, s, targets) =>
    { (m.withSwitchboard s) with
      phase := .run (h d.payload d.extra)
      stack := .call ⟨id, d.tag⟩ h { d with targets } :: m.stack }

/-- A round is over and some of its creations have paused. A construction hook
that has asked for them pauses with them; all other code waits through the next
round. -/
def roundEnded (m : Machine) (r : Round) : Machine :=
  match m.stack with
  | .hook c id outer :: stack =>
    ⟨m.session, .turn (outer.had (.awaiting c id r.before r.next)), stack⟩
  | _ => m.goto (.turn r.again)

def turn (m : Machine) (r : Round) : Machine :=
  match r.after with
  | [] =>
    match Slot.results r.before with
    | some results => m.goto (.run (r.next results))
    | none => m.roundEnded r
  | .ended result :: after => m.goto (.turn ({ r with after }.had (.ended result)))
  | .paused c id rest :: after =>
    { m with phase := .run rest, stack := .hook c id { r with after } :: m.stack }
  | .awaiting c id inner next :: after =>
    { m with
      phase := .turn (.first inner next)
      stack := .hook c id { r with after } :: m.stack }
  | .waiting c :: after =>
    let (d, result) := m.desktop.instantiate c.spec
    let m := m.withDesktop d
    match result with
    | .error e => m.created { r with after } (.error e)
    | .ok id =>
      { m with phase := .run (c.hook id), stack := .hook c id { r with after } :: m.stack }

def step (m : Machine) : Machine :=
  match m.phase with
  | .run p => m.request p
  | .deliver d => m.deliver d
  | .turn r => m.turn r
  | .stop _ => m

def run? : Nat → Machine → Option Session
  | 0, m => if m.isStopped then some m.session else none
  | limit + 1, m => if m.isStopped then some m.session else run? limit m.step

end Machine

/-- The session after a program, if that ends within `limit` steps. -/
def Session.run? (limit : Nat) (s : Session) (p : Program) : Option Session :=
  (Machine.start s p).run? limit

end FloatingPanels

import FloatingPanels.Session.Machine
import FloatingPanels.Proofs.Desktop.Action
import FloatingPanels.Proofs.Desktop.Construction
import FloatingPanels.Proofs.Switchboard
import Mathlib.Logic.Function.Iterate
/-!
# Runs of sessions

A `Run` is the list of all moments since a desktop was new, the latest first. Every
moment counts: those between two requests of a hook, a callback or a handler as much as
those between two programs of the host. What a run has done so far is a `trace` over
that list.

`next_desktop` and `next_session` sum up what leads from one moment to the next: which
effect it has on the desktop, and what it does to the handlers and to the calls that
are going on. The theorems about runs are case analyses over those two.
-/

namespace FloatingPanels

/-! ## Where runs begin -/

/-- A page before a desktop uses it: no container has a window yet. -/
structure Page.IsVacant (p : Page) : Prop where
  names : p.containers.keys.Nodup
  empty : ∀ e ∈ p.containers, e.2.children = []

namespace Page

theorem isVacant_bare (s : Size) : IsVacant { viewport := s } := ⟨by simp [Keyed.keys], by simp⟩

theorem IsVacant.withContainer {p : Page} (h : p.IsVacant) (name : String) (rect : Rect) :
    (p.withContainer name rect).IsVacant where
  names := Keyed.nodup_keys_set h.names
  empty e he := by
    rcases Keyed.mem_set h.names he with rfl | ⟨he, -⟩
    · rfl
    · exact h.empty e he

theorem IsVacant.setAnchor {p : Page} (h : p.IsVacant) (name : String) (rect : Rect) :
    (p.setAnchor name rect).IsVacant := ⟨h.names, h.empty⟩

theorem isVacant_ofViewport (s : Size) : (ofViewport s).IsVacant :=
  have h := (isVacant_bare s).withContainer mainContainer (viewportRect s)
  ⟨h.names, h.empty⟩

end Page

/-- A desktop on a vacant page that no operation on windows has touched. -/
structure Desktop.IsNew (d : Desktop) : Prop where
  page : d.page.IsVacant
  windows : d.windows = []
  addresses : d.addresses = []
  tray : d.tray = []
  gesture : d.gesture = none
  lastCreated : d.lastCreated = none
  issued : d.issued = 0

theorem Desktop.isNew {p : Page} (h : p.IsVacant) (settings : Settings) (library : Library) (chrome : Element) :
    Desktop.IsNew { settings, page := p, library, chrome } := ⟨h, rfl, rfl, rfl, rfl, rfl, rfl⟩

/-- A desktop that knows one kind of panel, which has nothing in it. -/
def Desktop.plain : Desktop :=
  { page := .ofViewport ⟨800, 600⟩
    library.templates := [("note", { markup := "<p></p>", parsed := some (.ok ⟨"p", [], .nil⟩) })] }

theorem Desktop.isNew_plain : plain.IsNew := isNew (Page.isVacant_ofViewport _) _ _ _

/-! ## Runs -/

/-- What can follow a moment: the next step, or, when a program has ended, another
program that the host begins on the session it leaves. -/
inductive Machine.Next (m : Machine) : Machine → Prop
  | step : Next m m.step
  | again (p : Program) (h : m.isStopped) : Next m (.start m.session p)

/-- A moment and those of the next steps, the latest first. -/
def Machine.moments (m : Machine) : Nat → List Machine
  | 0 => [m]
  | n + 1 => Machine.step^[n + 1] m :: moments m n

/-- The moments of a run, the latest first. -/
inductive Run (d₀ : Desktop) : List Machine → Prop
  | begin (p : Program) : Run d₀ [.start { desktop := d₀ } p]
  | next {m m' ms} : Run d₀ (m :: ms) → m.Next m' → Run d₀ (m' :: m :: ms)

namespace Run

/-- What has come of a run, when every pair of moments in turn changes it. -/
def trace {β : Type} (f : Machine → Machine → β → β) (b : β) : List Machine → β
  | m' :: m :: ms => f m m' (trace f b (m :: ms))
  | _ => b

variable {d₀ : Desktop} {m m' : Machine} {ms : List Machine}

/-- What holds where a run begins, and is kept from one moment to the next, holds of
every run. -/
theorem trace_inv {β : Type} {f : Machine → Machine → β → β} {b : β} {P : Machine → β → Prop}
    (h0 : ∀ p, P (.start { desktop := d₀ } p) b) (hn : ∀ m m' x, m.Next m' → P m x → P m' (f m m' x))
    (h : Run d₀ (m :: ms)) : P m (trace f b (m :: ms)) := by
  generalize hl : m :: ms = l at h
  induction h generalizing m ms with
  | begin p => cases hl; exact h0 p
  | next _ hm ih => cases hl; exact hn _ _ _ hm (ih rfl)

theorem inv {P : Machine → Prop} (h0 : ∀ p, P (.start { desktop := d₀ } p)) (hn : ∀ m m', m.Next m' → P m → P m')
    (h : Run d₀ (m :: ms)) : P m :=
  trace_inv (f := fun _ _ x => x) (b := ()) (P := fun m _ => P m) h0 (fun m m' _ => hn m m') h

/-- As `inv`, for what is kept only from moments at which `Q` holds. -/
theorem inv_of {P Q : Machine → Prop} (h0 : ∀ p, P (.start { desktop := d₀ } p))
    (hn : ∀ m m', m.Next m' → Q m → P m → P m') (h : Run d₀ (m :: ms)) (hq : ∀ n ∈ ms, Q n) : P m := by
  generalize hl : m :: ms = l at h
  induction h generalizing m ms with
  | begin p => cases hl; exact h0 p
  | next _ hm ih =>
    cases hl
    exact hn _ _ hm (hq _ List.mem_cons_self) (ih (fun n hm => hq n (List.mem_cons_of_mem _ hm)) rfl)

/-- What holds at a moment `m` of a run, and is kept from moments at which `Q` holds to
those at which `R` holds, holds at a later moment with such moments between. -/
theorem since {P Q R : Machine → Prop} {later : List Machine}
    (hn : ∀ n n' ns, Run d₀ (n' :: n :: ns) → Q n → R n' → P n → P n') (h : Run d₀ (m' :: (later ++ m :: ms)))
    (hp : P m) (hq : ∀ n ∈ later ++ [m], Q n) (hr : ∀ n ∈ m' :: later, R n) : P m' := by
  induction later generalizing m' with
  | nil => exact hn m m' ms h (hq m List.mem_cons_self) (hr m' List.mem_cons_self) hp
  | cons n later ih =>
    refine hn n m' (later ++ m :: ms) h (hq n List.mem_cons_self) (hr m' List.mem_cons_self) ?_
    cases h with
    | next h _ =>
      exact ih h (fun k hk => hq k (List.mem_cons_of_mem _ hk)) fun k hk => hr k (List.mem_cons_of_mem _ hk)

/-- The moments of the first steps of a program, with nothing before them. -/
theorem moments (p : Program) (n : Nat) : Run d₀ (Machine.moments (.start { desktop := d₀ } p) n) := by
  induction n with
  | zero => exact .begin p
  | succ n ih =>
    cases n with
    | zero => exact ih.next .step
    | succ n =>
      simp only [Machine.moments] at ih ⊢
      rw [Function.iterate_succ_apply']
      exact ih.next .step

end Run

/-! ## What a step does to the desktop -/

namespace Desktop

/-- What a session can have its desktop do. -/
inductive Task where
  | idle
  | act (action : Action)
  | instantiate (spec : WindowSpec)
  | conclude (id : WindowId) (kind : String) (v : Verdict)
  | complete (id : WindowId) (spec : WindowSpec)

def carryOut (d : Desktop) : Task → Desktop
  | .idle => d
  | .act action => (d.perform action).1
  | .instantiate spec => (d.instantiate spec).1
  | .conclude id kind v => (d.concludeHook id kind v).1
  | .complete id spec => (d.complete id spec).1

end Desktop

namespace Machine

/-- What the next step has the desktop do. -/
def task (m : Machine) : Desktop.Task :=
  match m.phase, m.stack with
  | .run (.act action _), _ => .act action
  | .run (.done v), .hook c id _ :: _ => .conclude id c.spec.kind v
  | .run (.done _), .post c id _ :: _ => .complete id c.spec
  | .turn ⟨_, .waiting c :: _, _⟩, _ => .instantiate c.spec
  | _, _ => .idle

/-- The action that the next step carries out. -/
def action? (m : Machine) : Option Action :=
  match m.phase with
  | .run (.act action _) => some action
  | _ => none

/-- The creation that the next step begins. -/
def creation? (m : Machine) : Option WindowSpec :=
  match m.phase with
  | .turn ⟨_, .waiting c :: _, _⟩ => some c.spec
  | _ => none

/-- The window that the next step raises. -/
def raised? (m : Machine) : Option WindowId := m.action?.bind m.desktop.raised

/-- The window that the next step registers, and the container it is created into. -/
def registered? (m : Machine) : Option (WindowId × String) := m.creation?.bind m.desktop.registers

/-- A step leaves the desktop alone, carries out an action, or does one of the
three parts of a creation. -/
inductive DesktopStep (d : Desktop) : Option Action → Option WindowSpec → Desktop → Prop
  | same : DesktopStep d none none d
  | act (action : Action) : DesktopStep d (some action) none (d.perform action).1
  | instantiate (spec : WindowSpec) : DesktopStep d none (some spec) (d.instantiate spec).1
  | conclude (id : WindowId) (kind : String) (v : Verdict) :
      DesktopStep d none none (d.concludeHook id kind v).1
  | complete (id : WindowId) (spec : WindowSpec) : DesktopStep d none none (d.complete id spec).1

theorem DesktopStep.effect {d d' : Desktop} {a : Option Action} {c : Option WindowSpec} (h : DesktopStep d a c d')
    (hs : d.Sound) : d.Effect d' (a.bind d.raised) (c.bind d.registers) := by
  cases h with
  | same => exact Desktop.effect_refl d
  | act action => exact Desktop.perform_effect hs action
  | instantiate spec => exact Desktop.effect_instantiate hs spec
  | conclude id kind v => exact Desktop.effect_concludeHook d id kind v
  | complete id spec => exact .alike (Desktop.alike_complete d id spec)

/-! ## What a step does to the handlers -/

/-- The line whose handler the next step sets, with that handler, or ends. -/
def subscription? (m : Machine) : Option (Line × Option Handler) :=
  match m.phase with
  | .run (.subscribe id tag handler _) => if m.desktop.isLive id then some (⟨id, tag⟩, some handler) else none
  | .run (.unsubscribe id tag _) => some (⟨id, tag⟩, none)
  | _ => none

/-- The line whose handler the next step calls, or takes back after a call. -/
def called? (m : Machine) : Option Line :=
  match m.phase, m.stack with
  | .deliver d, _ => (m.session.switchboard.nextTarget d.tag d.targets).map fun t => ⟨t.1, d.tag⟩
  | .run (.done _), .call l _ _ :: _ => some l
  | _, _ => none

/-- The handlers whose calls are going on, the innermost first. -/
def calls (m : Machine) : List (Line × Handler) :=
  m.stack.filterMap fun
    | .call l h _ => some (l, h)
    | _ => none

/-- The calls that the switchboard has noted are those on the stack, or a step does
one of four things to a handler while the desktop stays as it is. -/
inductive SessionStep (m m' : Machine) : Prop
  | operate (hn : m.subscription? = none) (hs : m'.session = m.session.withDesktop m'.desktop)
      (hc : m'.calls = m.calls)
  | subscribe (l : Line) (h : Handler) (hn : m.subscription? = some (l, some h))
      (hl : m.desktop.isLive l.id) (hd : m'.desktop = m.desktop)
      (hs : m'.session.switchboard = m.session.switchboard.subscribe l h) (hc : m'.calls = m.calls)
  | unsubscribe (l : Line) (hn : m.subscription? = some (l, none)) (hd : m'.desktop = m.desktop)
      (hs : m'.session.switchboard = (m.session.switchboard.unsubscribe l).1) (hc : m'.calls = m.calls)
  | take (l : Line) (h : Handler) (hn : m.subscription? = none) (hd : m'.desktop = m.desktop)
      (hs : m.session.switchboard.take? l = some (h, m'.session.switchboard)) (hc : m'.calls = (l, h) :: m.calls)
      (hl : m.called? = some l)
  | restore (l : Line) (h : Handler) (hn : m.subscription? = none) (hd : m'.desktop = m.desktop)
      (hs : m'.session.switchboard = m.session.switchboard.restore m.desktop l h) (hc : m.calls = (l, h) :: m'.calls)
      (hl : m.called? = some l)

/-! ## Every phase -/

theorem forget_none (s : Switchboard) : s.forget [] = s := by
  cases s
  simp [Switchboard.forget]

/-- Handlers stay as long as the same windows are live. -/
theorem withDesktop_of_ids {s : Session} {d : Desktop} (hd : d.ids = s.desktop.ids) :
    s.withDesktop d = ⟨d, s.switchboard⟩ := by
  have h : (s.desktop.ids.filter fun id => !d.isLive id) = [] := by
    refine List.filter_eq_nil_iff.2 fun id hid => ?_
    have : d.isLive id := Desktop.isLive_iff_mem_ids.2 (hd ▸ hid)
    simp [this]
  rw [Session.withDesktop, h, forget_none]

theorem withDesktop_self (s : Session) : s.withDesktop s.desktop = s := withDesktop_of_ids rfl

/-- A step that changes only the phase and leaves the calls on the stack. -/
theorem SessionStep.still {m m' : Machine} (hn : m.subscription? = none) (hs : m'.session = m.session)
    (hc : m'.calls = m.calls) : SessionStep m m' :=
  .operate hn (by rw [desktop, hs, withDesktop_self]) hc

theorem hookEnded_desktop (m : Machine) (c : Creation) (id : WindowId) (r : Round) (v : Verdict) :
    (m.hookEnded c id r v).desktop = (m.desktop.concludeHook id c.spec.kind v).1 := by
  simp only [hookEnded]
  split <;> rfl

theorem hookEnded_session (m : Machine) (c : Creation) (id : WindowId) (r : Round) (v : Verdict) :
    (m.hookEnded c id r v).session = m.session.withDesktop (m.desktop.concludeHook id c.spec.kind v).1 := by
  simp only [hookEnded]
  split <;> rfl

theorem hookEnded_calls (m : Machine) (c : Creation) (id : WindowId) (r : Round) (v : Verdict) :
    (m.hookEnded c id r v).calls = m.calls := by
  simp only [hookEnded]
  split <;> rfl

theorem step_task (m : Machine) : m.step.desktop = m.desktop.carryOut m.task := by
  obtain ⟨s, phase, stack⟩ := m
  -- Only an action and the parts of a creation touch the desktop.
  cases phase with
  | stop v => rfl
  | deliver d =>
    simp only [step, deliver]
    split <;> rfl
  | turn r =>
    obtain ⟨before, after, next⟩ := r
    rcases after with _ | ⟨slot, after⟩
    · simp only [step, turn]
      split
      · rfl
      · simp only [roundEnded]
        split <;> rfl
    · cases slot with
      | waiting c =>
        simp only [step, turn]
        split <;> rfl
      | _ => rfl
  | run p =>
    cases p with
    | done v =>
      rcases stack with _ | ⟨w, stack⟩
      · rfl
      · cases w with
        | hook c id r =>
          simp only [step, request, programEnded, hookEnded_desktop]
          rfl
        | _ => rfl
    | subscribe id tag handler next =>
      simp only [step, request]
      split <;> rfl
    | pause rest =>
      simp only [step, request, paused]
      split <;> rfl
    | _ => rfl

theorem step_desktop (m : Machine) : DesktopStep m.desktop m.action? m.creation? m.step.desktop := by
  rw [step_task]
  obtain ⟨s, phase, stack⟩ := m
  cases phase with
  | turn r =>
    obtain ⟨before, after, next⟩ := r
    rcases after with _ | ⟨slot, after⟩
    · exact .same
    · cases slot with
      | waiting c => exact .instantiate c.spec
      | _ => exact .same
  | run p =>
    cases p with
    | act action next => exact .act action
    | done v =>
      rcases stack with _ | ⟨w, stack⟩
      · exact .same
      · cases w with
        | hook c id r => exact .conclude id c.spec.kind v
        | post c id r => exact .complete id c.spec
        | call l h d => exact .same
    | _ => exact .same
  | _ => exact .same

/-- What leads to the next moment has one effect on the desktop. -/
theorem next_desktop {m m' : Machine} (h : m.Next m') (hs : m.desktop.Sound) :
    m.desktop.Effect m'.desktop m.raised? m.registered? := by
  cases h with
  | step => exact m.step_desktop.effect hs
  | again p hm =>
    obtain ⟨s, phase, stack⟩ := m
    cases phase with
    | stop v => exact Desktop.effect_refl s.desktop
    | _ => cases hm

/-- Every step does one of five things to the handlers and the calls. -/
theorem step_session (m : Machine) : SessionStep m m.step := by
  obtain ⟨s, phase, stack⟩ := m
  cases phase with
  | stop v => exact .still rfl rfl rfl
  | deliver d =>
    simp only [step, deliver]
    split
    · exact .still rfl rfl rfl
    · rename_i id h s' targets ht
      have hl : (Machine.mk s (.deliver d) stack).called? = some ⟨id, d.tag⟩ := by
        simp [called?, ht]
      exact .take ⟨id, d.tag⟩ h rfl rfl (Switchboard.nextTarget_some ht).1 rfl hl
  | turn r =>
    simp only [step, turn]
    split
    · split
      · exact .still rfl rfl rfl
      · simp only [roundEnded]
        split <;> exact .still rfl rfl rfl
    · exact .still rfl rfl rfl
    · exact .still rfl rfl rfl
    · exact .still rfl rfl rfl
    · split <;> exact .operate rfl rfl rfl
  | run p =>
    cases p with
    | done v =>
      rcases stack with _ | ⟨w, stack⟩
      · exact .still rfl rfl rfl
      · cases w with
        | hook c id r =>
          simp only [step, request, programEnded]
          refine .operate rfl ?_ (hookEnded_calls _ c id r v)
          rw [hookEnded_desktop, hookEnded_session]
        | post c id r => exact .operate rfl rfl rfl
        | call l h d => exact .restore l h rfl rfl rfl rfl rfl
    | look next => exact .still rfl rfl rfl
    | act action next => exact .operate rfl rfl rfl
    | subscribe id tag handler next =>
      have hn : (Machine.mk s (.run (.subscribe id tag handler next)) stack).subscription? =
          if s.desktop.isLive id then some (⟨id, tag⟩, some handler) else none := rfl
      by_cases hl : s.desktop.isLive id
      · rw [if_pos hl] at hn
        simp only [step, request, desktop, hl, if_true]
        exact .subscribe ⟨id, tag⟩ handler hn hl rfl rfl rfl
      · rw [if_neg hl] at hn
        simp only [step, request, desktop, hl, Bool.false_eq_true, if_false]
        exact .still hn rfl rfl
    | unsubscribe id tag next => exact .unsubscribe ⟨id, tag⟩ rfl rfl rfl rfl
    | broadcast tag payload extra next => exact .still rfl rfl rfl
    | create creations next => exact .still rfl rfl rfl
    | pause rest =>
      simp only [step, request, paused]
      split <;> exact .still rfl rfl rfl

/-! ## What a step does to the stack -/

/-- A step leaves what waits and may put something on top of it, or does so with what
is under the topmost. A call is taken off only when its handler has ended, and its
broadcast goes on. -/
inductive StackStep (m m' : Machine) : Prop
  | grow (ws : List Waiting) (h : m'.stack = ws ++ m.stack)
  | under (w : Waiting) (ws rest : List Waiting) (h : m.stack = w :: rest) (h' : m'.stack = ws ++ rest)
      (hw : ∀ l handler d, w ≠ .call l handler d)
  | back (l : Line) (handler : Handler) (d : Delivery) (h : m.stack = .call l handler d :: m'.stack)
      (hp : m'.phase = .deliver { d with count := d.count + 1 })

theorem step_stack (m : Machine) : StackStep m m.step := by
  obtain ⟨s, phase, stack⟩ := m
  -- The end of a program and a pause look at what is on top, all else adds to it.
  cases phase with
  | stop v => exact .grow [] rfl
  | deliver d =>
    simp only [step, deliver]
    split
    · exact .grow [] rfl
    · exact .grow [_] rfl
  | turn r =>
    obtain ⟨before, after, next⟩ := r
    rcases after with _ | ⟨slot, after⟩
    · simp only [step, turn]
      split
      · exact .grow [] rfl
      · rcases stack with _ | ⟨w, stack⟩
        · exact .grow [] rfl
        · cases w with
          | hook c id outer => exact .under (.hook c id outer) [] _ rfl rfl nofun
          | post c id r => exact .grow [] rfl
          | call l h d => exact .grow [] rfl
    · cases slot with
      | ended result => exact .grow [] rfl
      | paused c id rest => exact .grow [_] rfl
      | awaiting c id inner next => exact .grow [_] rfl
      | waiting c =>
        simp only [step, turn]
        split
        · exact .grow [] rfl
        · exact .grow [_] rfl
  | run p =>
    cases p with
    | done v =>
      rcases stack with _ | ⟨w, stack⟩
      · exact .grow [] rfl
      · cases w with
        | hook c id r =>
          simp only [step, request, programEnded, hookEnded]
          split
          · exact .under (.hook c id r) [] _ rfl rfl nofun
          · exact .under (.hook c id r) [.post c id r] stack rfl rfl nofun
        | post c id r => exact .under (.post c id r) [] _ rfl rfl nofun
        | call l h d => exact .back l h d rfl rfl
    | subscribe id tag handler next =>
      simp only [step, request]
      split <;> exact .grow [] rfl
    | pause rest =>
      rcases stack with _ | ⟨w, stack⟩
      · exact .grow [] rfl
      · cases w with
        | hook c id r => exact .under (.hook c id r) [] _ rfl rfl nofun
        | post c id r => exact .grow [] rfl
        | call l h d => exact .grow [] rfl
    | _ => exact .grow [] rfl

/-- A step comes to a stop only with nothing left to go on with. -/
theorem stack_of_stopped {m : Machine} (hm : m.isStopped → m.stack = []) (h : m.step.isStopped) :
    m.step.stack = [] := by
  obtain ⟨s, phase, stack⟩ := m
  cases phase with
  | stop v => exact hm rfl
  | deliver d =>
    simp only [step, deliver] at h ⊢
    split at h <;> cases h
  | turn r =>
    obtain ⟨before, after, next⟩ := r
    rcases after with _ | ⟨slot, after⟩
    · simp only [step, turn] at h
      split at h
      · cases h
      · simp only [roundEnded] at h
        split at h <;> cases h
    · cases slot with
      | waiting c =>
        simp only [step, turn] at h
        split at h <;> cases h
      | _ => cases h
  | run p =>
    cases p with
    | done v =>
      rcases stack with _ | ⟨w, stack⟩
      · rfl
      · cases w with
        | hook c id r =>
          simp only [step, request, programEnded, hookEnded] at h
          split at h <;> cases h
        | _ => cases h
    | subscribe id tag handler next =>
      simp only [step, request] at h
      split at h <;> cases h
    | pause rest =>
      simp only [step, request, paused] at h
      split at h <;> cases h
    | _ => cases h

theorem next_stopped {m m' : Machine} (hn : m.Next m') (hm : m.isStopped → m.stack = []) :
    m'.isStopped → m'.stack = [] := by
  cases hn with
  | step => exact stack_of_stopped hm
  | again p _ => exact fun _ => rfl

/-- What leads to the next moment does one of five things to the handlers and the
calls. -/
theorem next_session {m m' : Machine} (hn : m.Next m') (hm : m.isStopped → m.stack = []) : SessionStep m m' := by
  cases hn with
  | step => exact step_session m
  | again p h =>
    obtain ⟨s, phase, stack⟩ := m
    cases phase with
    | stop v =>
      obtain rfl : stack = [] := hm rfl
      exact .still rfl rfl rfl
    | _ => cases h

end Machine

/-- When a program of the host has ended, nothing waits for it. -/
theorem run_stopped {d₀ : Desktop} {m : Machine} {ms : List Machine} (h : Run d₀ (m :: ms)) :
    m.isStopped → m.stack = [] :=
  h.inv (fun _ _ => rfl) fun _ _ hn => Machine.next_stopped hn

end FloatingPanels

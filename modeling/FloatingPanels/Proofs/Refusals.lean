import FloatingPanels.Session.Machine
import FloatingPanels.Proofs.Run
/-!
# Refusals

A request is refused when its answer is `false` or an error. Many operations are made of
others: a press of the pointer comes to one of seven, a hidden window is shown before it
is maximized. `step_refused` says that none of them is refused halfway: whatever the
desktop, the only thing that a refused request does is to tell so.
-/

namespace FloatingPanels

def Answer.isRefusal : Answer → Bool
  | .done => false
  | .flag b => !b
  | .refused _ | .malformed _ => true

namespace Desktop

variable {d : Desktop}

/-! ## Operations that answer whether they did anything -/

/-- What answers that nothing was done has done nothing. -/
def Quiet (d : Desktop) (r : Desktop × Bool) : Prop := r.2 = false → r.1 = d

theorem quiet_skip (d : Desktop) (b : Bool) : Quiet d (d, b) := fun _ => rfl

theorem quiet_true (d d' : Desktop) : Quiet d (d', true) := nofun

theorem quiet_ite {c : Prop} [Decidable c] {r r' : Desktop × Bool} (h : Quiet d r) (h' : Quiet d r') :
    Quiet d (if c then r else r') := by
  split
  · exact h
  · exact h'

/-- What is done where a condition holds, and not at all elsewhere. -/
theorem quiet_when {c : Prop} [Decidable c] (d d' : Desktop) : Quiet d (if c then (d', true) else (d, false)) :=
  quiet_ite (quiet_true d d') (quiet_skip d false)

theorem quiet_raise (id : WindowId) : Quiet d (d.raise id) := by
  unfold raise
  split
  · exact quiet_skip d _
  · exact quiet_ite (quiet_skip d _) (quiet_true d _)

theorem quiet_normalizeWindow (w : Window) : Quiet d (d.normalizeWindow w) := by
  unfold normalizeWindow
  split
  · exact quiet_when d _
  · exact quiet_skip d _

theorem quiet_revealWindow (w : Window) : Quiet d (d.revealWindow w) := by
  unfold revealWindow
  split
  · exact quiet_when d _
  · exact quiet_skip d _

/-- Once a hidden window is shown it is maximized, too. -/
theorem quiet_maximizeWindow (w : Window) : Quiet d (d.maximizeWindow w) := by
  unfold maximizeWindow
  split
  · exact quiet_skip d _
  · cases w.mode with
    | normal => exact quiet_true d _
    | maximized saved => exact quiet_normalizeWindow w
    | stuck restore => exact quiet_skip d _
    | dragging g => exact quiet_skip d _
    | resizing g => exact quiet_skip d _
    | hidden restore =>
      cases restore with
      | none => exact quiet_true d _
      | some saved => exact quiet_ite (quiet_revealWindow w) (quiet_true d _)

theorem quiet_changeFrame (id : WindowId) (f : Frame → Frame) : Quiet d (d.changeFrame id f) := quiet_when d _

theorem quiet_setContentText (id : WindowId) (name text : String) : Quiet d (d.setContentText id name text) := by
  unfold setContentText
  split
  · exact quiet_true d _
  · exact quiet_skip d _

theorem quiet_setAddress (id : WindowId) (address : String) : Quiet d (d.setAddress id address) := by
  unfold setAddress
  split
  · exact quiet_skip d _
  · exact quiet_true d _

theorem quiet_embed (id : WindowId) (widget : String) : Quiet d (d.embed id widget) := quiet_when d _

theorem quiet_pointerMove (p : Point) : Quiet d (d.pointerMove p) := by
  unfold pointerMove
  split
  · exact quiet_skip d _
  · split
    · exact quiet_skip d _
    · split
      · exact quiet_true d _
      · exact quiet_true d _
      · exact quiet_skip d _

theorem quiet_pointerUp : Quiet d d.pointerUp := by
  unfold pointerUp
  split
  · exact quiet_skip d _
  · exact quiet_true d _

/-! ## Operations that fail for windows that are not live -/

/-- An outcome that is no error and answers that nothing was done has done nothing. -/
def QuietOutcome (d : Desktop) (o : Outcome) : Prop := ∀ r, o = .ok r → Quiet d r

theorem quiet_onWindow {id : WindowId} {f : Window → Desktop × Bool} (h : ∀ w, Quiet d (f w)) :
    QuietOutcome d (d.onWindow id f) := by
  intro r ho
  unfold onWindow at ho
  split at ho
  · cases ho
  · cases ho
    exact h _

theorem quiet_close (id : WindowId) : QuietOutcome d (d.close id) := quiet_onWindow fun _ => quiet_when d _

theorem quiet_bringToFront (id : WindowId) : QuietOutcome d (d.bringToFront id) :=
  quiet_onWindow fun _ => quiet_raise id

theorem quiet_maximize (id : WindowId) : QuietOutcome d (d.maximize id) :=
  quiet_onWindow fun w => quiet_maximizeWindow w

theorem quiet_hide (id : WindowId) : QuietOutcome d (d.hide id) := by
  refine quiet_onWindow fun w => ?_
  split
  · exact quiet_when d _
  · exact quiet_skip d _

theorem quiet_stick (id : WindowId) : QuietOutcome d (d.stick id) := by
  refine quiet_onWindow fun w => ?_
  split
  · exact quiet_when d _
  · exact quiet_skip d _

theorem quiet_unstick (id : WindowId) : QuietOutcome d (d.unstick id) := by
  refine quiet_onWindow fun w => ?_
  split
  · exact quiet_true d _
  · exact quiet_skip d _

theorem quiet_toggleStick (id : WindowId) : QuietOutcome d (d.toggleStick id) := by
  unfold toggleStick
  split
  · intro r ho
    cases ho
  · split
    · exact quiet_unstick id
    · exact quiet_stick id

theorem quiet_fit (id : WindowId) (h : Handle) : QuietOutcome d (d.fit id h) := by
  refine quiet_onWindow fun w => quiet_ite (quiet_skip d _) ?_
  exact quiet_ite (quiet_skip d _) (quiet_true d _)

theorem quiet_beginDrag (id : WindowId) (p : Point) : QuietOutcome d (d.beginDrag id p) :=
  quiet_onWindow fun _ => quiet_when d _

theorem quiet_beginResize (id : WindowId) (h : Handle) (p : Point) : QuietOutcome d (d.beginResize id h p) :=
  quiet_onWindow fun _ => quiet_when d _

/-! ## Presses -/

theorem quiet_press (id : WindowId) (c : Control) : QuietOutcome d (d.press id c) := by
  cases c with
  | close => exact quiet_close id
  | hide => exact quiet_hide id
  | maximize => exact quiet_maximize id
  | stick => exact quiet_toggleStick id

/-- A press on the content counts even if the window is the topmost already. -/
theorem quiet_raised (id : WindowId) : QuietOutcome d ((d.bringToFront id).map fun r => (r.1, true)) := by
  intro r ho
  cases h : d.bringToFront id with
  | error e =>
    rw [h] at ho
    cases ho
  | ok r' =>
    rw [h] at ho
    cases ho
    exact quiet_true d _

theorem quiet_pressPart (id : WindowId) (p : Point) (part : Part) : QuietOutcome d (d.pressPart id p part) := by
  cases part with
  | title => exact quiet_beginDrag id p
  | handle h => exact quiet_beginResize id h p
  | control c => exact quiet_press id c
  | content => exact quiet_raised id
  | footer => exact quiet_raised id

theorem quiet_doubleClickPart (id : WindowId) (part : Part) : QuietOutcome d (d.doubleClickPart id part) := by
  have none : QuietOutcome d (.ok (d, false)) := by
    intro r ho
    cases ho
    exact quiet_skip d _
  cases part with
  | title => exact quiet_maximize id
  | handle h => exact quiet_fit id h
  | _ => exact none

theorem quiet_atPoint (p : Point) {f : WindowId → Part → Outcome} (h : ∀ id part, QuietOutcome d (f id part)) :
    Quiet d (d.atPoint p f) := by
  unfold atPoint
  split
  · exact quiet_skip d _
  · split
    · rename_i ho
      exact h _ _ _ ho
    · exact quiet_skip d _

/-! ## Every action -/

theorem QuietOutcome.refused {o : Outcome} (h : QuietOutcome d o) (hr : (Answer.ofOutcome d o).2.isRefusal) :
    (Answer.ofOutcome d o).1 = d := by
  cases o with
  | error e => rfl
  | ok r => exact h r rfl (by simpa [Answer.ofOutcome, Answer.isRefusal] using hr)

theorem Quiet.refused {r : Desktop × Bool} (h : Quiet d r) (hr : (Answer.ofFlag r).2.isRefusal) :
    (Answer.ofFlag r).1 = d :=
  h (by simpa [Answer.ofFlag, Answer.isRefusal] using hr)

theorem refused_ofDone {o : Except DesktopError Desktop} (hr : (Answer.ofDone d o).2.isRefusal) :
    (Answer.ofDone d o).1 = d := by
  cases o with
  | error e => rfl
  | ok d' => cases hr

theorem perform_refused (a : Action) (hr : (d.perform a).2.isRefusal) : (d.perform a).1 = d := by
  cases a with
  | registerTemplate kind markup => cases hr
  | registerPreset kind name data => cases hr
  | setSensitivity n => cases hr
  | setViewport s => cases hr
  | setAnchor name rect => cases hr
  | note data => cases hr
  | setChrome markup =>
    simp only [perform] at hr ⊢
    cases h : d.setChrome markup with
    | ok d' => rw [h] at hr; cases hr
    | error e => rfl
  | destroy id => exact refused_ofDone hr
  | placeUnder id anchor => exact refused_ofDone hr
  | close id => exact (quiet_close id).refused hr
  | bringToFront id => exact (quiet_bringToFront id).refused hr
  | maximize id => exact (quiet_maximize id).refused hr
  | normalize id => exact QuietOutcome.refused (quiet_onWindow fun w => quiet_normalizeWindow w) hr
  | hide id => exact (quiet_hide id).refused hr
  | reveal id => exact QuietOutcome.refused (quiet_onWindow fun w => quiet_revealWindow w) hr
  | stick id => exact (quiet_stick id).refused hr
  | unstick id => exact (quiet_unstick id).refused hr
  | toggleStick id => exact (quiet_toggleStick id).refused hr
  | fit id h => exact (quiet_fit id h).refused hr
  | beginDrag id p => exact (quiet_beginDrag id p).refused hr
  | beginResize id h p => exact (quiet_beginResize id h p).refused hr
  | pointerMove p => exact (quiet_pointerMove p).refused hr
  | pointerUp => exact quiet_pointerUp.refused hr
  | pointerDown p => exact (quiet_atPoint p fun id part => quiet_pressPart id p part).refused hr
  | doubleClick p => exact (quiet_atPoint p fun id part => quiet_doubleClickPart id part).refused hr
  | setTitle id title => exact (quiet_changeFrame id _).refused hr
  | setError id message => exact (quiet_changeFrame id _).refused hr
  | setAddress id address => exact (quiet_setAddress id address).refused hr
  | setContentText id name text => exact (quiet_setContentText id name text).refused hr
  | embed id widget => exact (quiet_embed id widget).refused hr

end Desktop

/-! ## Every request -/

/-- What code can ask of a session in one step and be refused. -/
inductive Request where
  | act (action : Action)
  | subscribe (l : Line) (h : Handler)
  | unsubscribe (l : Line)

/-- The code that makes a request and goes on with its answer. -/
def Request.program (next : Answer → Program) : Request → Program
  | act action => .act action next
  | subscribe l h => .subscribe l.id l.tag h fun b => next (.flag b)
  | unsubscribe l => .unsubscribe l.id l.tag fun b => next (.flag b)

def Session.answer (s : Session) : Request → Answer
  | .act action => (s.desktop.perform action).2
  | .subscribe l _ => .flag (s.desktop.isLive l.id)
  | .unsubscribe l => .flag (s.switchboard.unsubscribe l).2

/-- To end a subscription that there is not, neither there nor away, changes nothing. -/
theorem Switchboard.unsubscribe_refused {s : Switchboard} {l : Line} (h : (s.unsubscribe l).2 = false) :
    (s.unsubscribe l).1 = s := by
  obtain ⟨hhas, hcalls⟩ := Bool.or_eq_false_iff.1 h
  have hkeys : Keyed.remove l s.handlers = s.handlers := by
    refine List.filter_eq_self.2 fun e he => ?_
    rw [decide_eq_true_iff]
    rintro rfl
    have : s.has e.1 := (Keyed.hasKey_iff _ _).2 (List.mem_map_of_mem he)
    rw [hhas] at this
    cases this
  have hmap : s.calls.map (fun c => if active l c then { c with ended := true } else c) = s.calls :=
    (List.map_congr_left fun c hc => if_neg (List.any_eq_false.1 hcalls c hc)).trans (List.map_id' _)
  rw [unsubscribe, hkeys, hmap]

/-- A request is answered at once. If it is refused, the session is as it was. -/
theorem step_refused (m : Machine) (r : Request) (next : Answer → Program) (hm : m.phase = .run (r.program next)) :
    m.step = ⟨m.step.session, .run (next (m.session.answer r)), m.stack⟩ ∧
      ((m.session.answer r).isRefusal → m.step.session = m.session) := by
  obtain ⟨s, phase, stack⟩ := m
  obtain rfl : phase = .run (r.program next) := hm
  cases r with
  | act a =>
    refine ⟨rfl, fun hr => ?_⟩
    have hd := Desktop.perform_refused a hr
    simp only [Machine.step, Machine.request, Request.program, Session.perform, hd, Machine.withDesktop_self]
  | subscribe l h =>
    by_cases hl : s.desktop.isLive l.id
    · simp only [Machine.step, Machine.request, Request.program, Machine.desktop, hl, if_true, Session.answer]
      refine ⟨rfl, fun hr => ?_⟩
      cases hr
    · simp only [Machine.step, Machine.request, Request.program, Machine.desktop, hl, Bool.false_eq_true, if_false,
        Session.answer]
      exact ⟨rfl, fun _ => rfl⟩
  | unsubscribe l =>
    refine ⟨rfl, fun hr => ?_⟩
    have hu : (s.switchboard.unsubscribe l).2 = false := by simpa [Session.answer, Answer.isRefusal] using hr
    simp only [Machine.step, Machine.request, Request.program, Switchboard.unsubscribe_refused hu]
    rfl

/-- A host that asks to maximize a window that it has stuck. -/
def maximizeStuck : Program :=
  .create [.passive { kind := "note" }] fun _ => .then_ (.stick ⟨1⟩) (.then_ (.maximize ⟨1⟩) .accept)

theorem step_refused_stuck :
    let m := Machine.step^[6] (.start { desktop := .plain } maximizeStuck)
    m.phase = .run (Request.program (fun _ => .accept) (.act (.maximize ⟨1⟩))) ∧
      m.session.answer (.act (.maximize ⟨1⟩)) = .flag false ∧ m.step.session = m.session := by
  intro m
  have hm : m.phase = .run (Request.program (fun _ => .accept) (.act (.maximize ⟨1⟩))) := rfl
  have ha : m.session.answer (.act (.maximize ⟨1⟩)) = .flag false := by decide +kernel
  exact ⟨hm, ha, (step_refused m _ _ hm).2 (by rw [ha]; rfl)⟩

end FloatingPanels

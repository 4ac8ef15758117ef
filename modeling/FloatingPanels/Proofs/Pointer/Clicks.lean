import FloatingPanels.Proofs.Canvas.Ownership
import FloatingPanels.Proofs.Desktop.Action
import FloatingPanels.Proofs.Pointer.DoubleClicks
import FloatingPanels.Proofs.Run
/-!
# Clicks on buttons

A press on a button of a window does what the button is there for, and answers as if that had
been asked for directly. A double click is not passed on to the button, even where the first
of its two presses was on another window, so buttons miss the second of two quick presses.
-/

namespace FloatingPanels

namespace Press

theorem completes_iff_any {interval : Nat} {last : Option Press} {q : Press} :
    Completes interval last q ↔ last.any fun p => !p.double && Near interval p q := by
  cases last <;> simp [Completes]

instance (interval : Nat) (last : Option Press) (q : Press) : Decidable (Completes interval last q) :=
  decidable_of_iff _ completes_iff_any.symm

end Press

open Press

/-! ## One press -/

namespace Desktop

variable {d : Desktop} {p : Point} {id : WindowId} {part : Part}

/-- What a press hits is live. -/
theorem isLive_of_hitTest (h : d.hitTest p = some (id, part)) : d.isLive id := by
  rw [hitTest_eq] at h
  obtain ⟨w, hw, hhit⟩ := List.exists_of_findSome?_eq_some h
  have hid : w.id = id := by
    unfold Window.hit? at hhit
    split at hhit
    · cases hhit
    · obtain ⟨part', -, hpart⟩ := Option.map_eq_some_iff.1 hhit
      exact congrArg Prod.fst hpart
  exact hid ▸ isLive_of_mem (mem_stacked.1 (List.mem_reverse.1 hw))

/-- Only on a window that is not live a button is in error. -/
theorem exists_press (h : d.isLive id) (c : Control) : ∃ r, d.press id c = .ok r := by
  obtain ⟨w, hw⟩ := Option.isSome_iff_exists.1 h
  cases c with
  | stick =>
    simp only [press, toggleStick, unstick, stick, onWindow, hw]
    split <;> exact ⟨_, rfl⟩
  | _ =>
    simp only [press, close, hide, maximize, onWindow, hw]
    exact ⟨_, rfl⟩

theorem perform_press (d : Desktop) (id : WindowId) (p : Point) (c : Control) :
    d.perform (pressAction id p (.control c)) = Answer.ofOutcome d (d.press id c) := by
  cases c <;> rfl

/-- A press on a button is the call that the button stands for. -/
theorem perform_pointerDown (h : d.hitTest p = some (id, .control c)) :
    d.perform (.pointerDown p) = d.perform (pressAction id p (.control c)) := by
  obtain ⟨r, hr⟩ := exists_press (isLive_of_hitTest h) c
  have hdown : d.pointerDown p = r := by
    simp only [pointerDown, atPoint, h, pressPart, hr]
  rw [perform_press, hr]
  exact congrArg Answer.ofFlag hdown

/-- Buttons know nothing of double clicks. -/
theorem perform_doubleClick (h : d.hitTest p = some (id, .control c)) :
    d.perform (.doubleClick p) = (d, .flag false) := by
  have hdouble : d.doubleClick p = (d, false) := by
    simp only [doubleClick, atPoint, h, doubleClickPart]
  exact congrArg Answer.ofFlag hdouble

end Desktop

/-! ## Sequences of events -/

/-- A session, and the router through which the mouse comes to it. -/
structure Pointing where
  router : Router
  session : Session

namespace Pointing

/-- What an event of the mouse makes of the session, and the answer. -/
def handle (q : Pointing) (now : Nat) (e : MouseEvent) : Session × Answer :=
  match (q.router.route e now).2 with
  | some action => q.session.perform action
  | none => (q.session, .flag false)

def next (q : Pointing) (now : Nat) (e : MouseEvent) : Pointing := ⟨(q.router.route e now).1, (q.handle now e).1⟩

/-- After some events, each with its time. -/
def after (q : Pointing) (events : List (Nat × MouseEvent)) : Pointing := events.foldl (fun q x => q.next x.1 x.2) q

variable {q : Pointing} {now : Nat} {e : MouseEvent} {id : WindowId} {c : Control}

theorem router_after (q : Pointing) (events : List (Nat × MouseEvent)) :
    (q.after events).router = q.router.after events := by
  induction events generalizing q with
  | nil => rfl
  | cons x events ih => exact ih (q.next x.1 x.2)

theorem handle_press (hk : e.kind = .down .left) (hit : q.session.desktop.hitTest e.point = some (id, .control c)) :
    q.handle now e =
      if q.router.completes e.point now then (q.session, .flag false)
      else q.session.perform (Desktop.pressAction id e.point (.control c)) := by
  rw [handle, q.router.route_action now hk]
  cases q.router.completes e.point now with
  | true => simp only [if_true, Session.perform, Desktop.perform_doubleClick hit, Machine.withDesktop_self]
  | false => simp only [Bool.false_eq_true, if_false, Session.perform, Desktop.perform_pointerDown hit]

/-- A press on a button counts unless it makes a double click with the press before it, which
need not have been on the same window. -/
theorem press_counts (interval : Nat) (s : Session) (events : List (Nat × MouseEvent)) (now : Nat)
    (hk : e.kind = .down .left)
    (hit : (after ⟨{ interval }, s⟩ events).session.desktop.hitTest e.point = some (id, .control c)) :
    (after ⟨{ interval }, s⟩ events).handle now e =
      if Completes interval (Router.presses { interval } events).getLast? ⟨now, e.point, false⟩
      then ((after ⟨{ interval }, s⟩ events).session, .flag false)
      else (after ⟨{ interval }, s⟩ events).session.perform (Desktop.pressAction id e.point (.control c)) := by
  have hnew : Router.Remembers { interval } none := rfl
  have hafter := hnew.after events
  rw [Option.or_none, ← router_after ⟨{ interval }, s⟩] at hafter
  have hinterval : (after ⟨{ interval }, s⟩ events).router.interval = interval := by
    rw [router_after]
    exact Router.interval_after _ events
  have hcompletes := hafter.completes_iff ⟨now, e.point, false⟩
  rw [hinterval] at hcompletes
  rw [handle_press hk hit]
  exact if_congr hcompletes rfl rfl

/-- Two windows at the same place. -/
def twoWindows : Session := (Machine.step^[7] (.start { desktop := .cells }
  (.create [.passive { kind := "note" }, .passive { kind := "note" }] fun _ => .accept))).session

/-- A press on their buttons for hiding, which lie over each other. -/
def onHide : MouseEvent := ⟨.down .left, 3, 1⟩

def hideUpper : List (Nat × MouseEvent) := [(0, onHide), (50, ⟨.up .left, 3, 1⟩)]

def upperHidden : Pointing := after ⟨{ interval := 400 }, twoWindows⟩ hideUpper

/-- The button of the upper window takes the press. -/
theorem twoWindows_facts :
    (twoWindows.desktop.windows.Pairwise fun v w => v.notAbove w) ∧
      twoWindows.desktop.windows.reverse.findSome? (Window.hit? twoWindows.desktop.settings.metrics onHide.point) =
        some (⟨2⟩, .control .hide) := by
  decide +kernel

/-- With that window hidden, the button of the other has come under the pointer, and would hide it. -/
theorem hideUpper_facts :
    let s := (twoWindows.perform (.hide ⟨2⟩)).1
    s.desktop.gesture = none ∧ (s.desktop.windows.Pairwise fun v w => v.notAbove w) ∧
      s.desktop.windows.reverse.findSome? (Window.hit? s.desktop.settings.metrics onHide.point) =
        some (⟨1⟩, .control .hide) ∧
      (s.perform (.hide ⟨1⟩)).2 = .flag true ∧ s.desktop.hiddenWindows.map Window.id = [⟨2⟩] ∧
      (s.perform (.hide ⟨1⟩)).1.desktop.hiddenWindows.map Window.id = [⟨1⟩, ⟨2⟩] := by
  decide +kernel

theorem session_upperHidden : upperHidden.session = (twoWindows.perform (.hide ⟨2⟩)).1 := by
  have hit : twoWindows.desktop.hitTest onHide.point = some (⟨2⟩, .control .hide) := by
    rw [Desktop.hitTest_eq, Desktop.stacked_of_pairwise twoWindows_facts.1]
    exact twoWindows_facts.2
  have hfirst : (handle ⟨{ interval := 400 }, twoWindows⟩ 0 onHide).1 = (twoWindows.perform (.hide ⟨2⟩)).1 :=
    congrArg Prod.fst (handle_press (q := ⟨{ interval := 400 }, twoWindows⟩) (e := onHide) rfl hit)
  have hgesture := hideUpper_facts.1
  have hup : upperHidden.session =
      ((handle ⟨{ interval := 400 }, twoWindows⟩ 0 onHide).1.perform .pointerUp).1 := rfl
  rw [hup, hfirst]
  generalize (twoWindows.perform (.hide ⟨2⟩)).1 = s at hgesture
  simp only [Session.perform, Desktop.perform, Answer.ofFlag, Desktop.pointerUp, hgesture, Machine.withDesktop_self]

theorem hitTest_upperHidden : upperHidden.session.desktop.hitTest onHide.point = some (⟨1⟩, .control .hide) := by
  rw [session_upperHidden, Desktop.hitTest_eq, Desktop.stacked_of_pairwise hideUpper_facts.2.1]
  exact hideUpper_facts.2.2.1

theorem press_counts_upperHidden :
    upperHidden.session.desktop.hitTest onHide.point = some (⟨1⟩, .control .hide) ∧
      upperHidden.handle 500 onHide = upperHidden.session.perform (.hide ⟨1⟩) := by
  have h := press_counts 400 twoWindows hideUpper 500 rfl hitTest_upperHidden
  rw [if_neg (by decide)] at h
  exact ⟨hitTest_upperHidden, h⟩

/-- A quick press on it does nothing, although to hide the window would hide it. -/
theorem press_counts_fails_upperHidden :
    upperHidden.session.desktop.hitTest onHide.point = some (⟨1⟩, .control .hide) ∧
      upperHidden.handle 100 onHide = (upperHidden.session, .flag false) ∧
      (upperHidden.session.perform (.hide ⟨1⟩)).2 = .flag true ∧
      upperHidden.session.desktop.hiddenWindows.map Window.id = [⟨2⟩] ∧
      (upperHidden.session.perform (.hide ⟨1⟩)).1.desktop.hiddenWindows.map Window.id = [⟨1⟩, ⟨2⟩] := by
  refine ⟨hitTest_upperHidden, (handle_press rfl hitTest_upperHidden).trans (if_pos ?_), ?_⟩
  · rw [upperHidden, router_after]
    decide
  · rw [session_upperHidden]
    exact hideUpper_facts.2.2.2

end Pointing

end FloatingPanels

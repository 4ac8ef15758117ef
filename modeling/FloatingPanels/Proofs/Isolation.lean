import FloatingPanels.Proofs.Integrity
import FloatingPanels.Proofs.Touch
/-!
# Isolation

All windows share one desktop and one switchboard, and many operations go through all of
them: raising, locking, removing. `run_isolation` says that what is not about a window
leaves it as it was, but for its height in the stack and the lock of its frame.
-/

namespace FloatingPanels

/-- A window is as it was, but for its height and its lock. -/
structure Window.Spared (v v' : Window) : Prop where
  rest : v' = { v with z := v'.z, frame := v'.frame }
  /-- Without the lock the trees are the same. -/
  tree : v'.frame.lock false = v.frame.lock false
  title : v'.frame.title = v.frame.title
  error : v'.frame.error = v.frame.error
  content : v'.frame.content.map Element.children = v.frame.content.map Element.children

theorem Window.spared_of_core {v v' : Window} (h : v'.core = v.core) : v.Spared v' := by
  have htree : v'.frame.lock false = v.frame.lock false := congrArg Window.frame h
  -- What does not see the lock is read off the frames without it.
  have reads : ∀ {α : Type} (g : Frame → α), (∀ f, g (f.lock false) = g f) → g v'.frame = g v.frame := by
    intro α g hg
    rw [← hg v'.frame, htree, hg]
  refine ⟨?_, htree, reads _ fun f => f.title_lock false, reads _ fun f => f.error_lock false,
    reads (fun f => f.content.map Element.children) fun f => f.content_lock false⟩
  obtain ⟨id, kind, container, rect, z, caps, mode, address, frame, widgets, constructed⟩ := v
  obtain ⟨id', kind', container', rect', z', caps', mode', address', frame', widgets', constructed'⟩ := v'
  simp only [core, Window.mk.injEq] at h
  obtain ⟨rfl, rfl, rfl, rfl, -, rfl, rfl, rfl, -, rfl, rfl⟩ := h
  rfl

namespace Machine

/-- Whether the next step acts on a window: its task does, it subscribes or unsubscribes
the window, or a broadcast calls a handler of it or has called one. -/
def concerns (m : Machine) (i : WindowId) : Bool :=
  m.desktop.touches i m.task || m.subscription?.map (fun s => s.1.id) = some i || m.called?.map Line.id = some i

variable {m m' m'' : Machine} {i : WindowId}

/-- A window has the same core and the same subscriptions. -/
structure Spares (m m' : Machine) (i : WindowId) : Prop where
  core : m'.desktop.core? i = m.desktop.core? i
  subscriptions : m.session.switchboard.SameFor m'.session.switchboard i

theorem Spares.refl (m : Machine) (i : WindowId) : Spares m m i := ⟨rfl, .refl _ i⟩

theorem Spares.trans (h : Spares m m' i) (h' : Spares m' m'' i) : Spares m m'' i :=
  ⟨h'.core.trans h.core, h.subscriptions.trans h'.subscriptions⟩

theorem next_core? (hn : m.Next m') (hs : m.desktop.Sound) (hc : m.concerns i = false) :
    m'.desktop.core? i = m.desktop.core? i := by
  simp only [concerns, Bool.or_eq_false_iff] at hc
  cases hn with
  | step =>
    rw [step_task]
    exact (Desktop.carryOut_touch hs m.task).spares i (by rw [hc.1.1]; exact Bool.false_ne_true)
  | again p _ => rfl

theorem next_spares (hn : m.Next m') (hs : m.desktop.Sound) (hstop : m.isStopped → m.stack = [])
    (hc : m.concerns i = false) : Spares m m' i := by
  have hcore := next_core? hn hs hc
  refine ⟨hcore, ?_⟩
  simp only [concerns, Bool.or_eq_false_iff, decide_eq_false_iff_not] at hc
  obtain ⟨⟨-, hsub⟩, hcall⟩ := hc
  cases next_session hn hstop with
  | operate _ h _ =>
    rw [h, Session.withDesktop]
    -- Only the handlers of windows that are gone are dropped.
    refine Switchboard.sameFor_forget _ fun hgone => ?_
    obtain ⟨hid, hdead⟩ := List.mem_filter.1 hgone
    have hlive : m.desktop.isLive i := Desktop.isLive_iff_mem_ids.2 hid
    rw [Desktop.isLive_of_core? hcore, hlive] at hdead
    cases hdead
  | subscribe l h hn _ _ hs _ =>
    rw [hs]
    exact Switchboard.sameFor_subscribe (fun hl => hsub (by rw [hn, ← hl]; rfl)) _ h
  | unsubscribe l hn _ hs _ =>
    rw [hs]
    exact Switchboard.sameFor_unsubscribe (fun hl => hsub (by rw [hn, ← hl]; rfl)) _
  | take l h _ _ hs _ hn => exact Switchboard.sameFor_take (fun hl => hcall (by rw [hn, ← hl]; rfl)) hs
  | restore l h _ _ hs _ hn =>
    rw [hs]
    exact Switchboard.sameFor_restore (fun hl => hcall (by rw [hn, ← hl]; rfl)) _ _ h

end Machine

/-- A live window is spared, and so are its subscriptions. -/
structure Isolated (m m' : Machine) (v : Window) : Prop where
  window : ∃ v', m'.desktop.window? v.id = some v' ∧ v.Spared v'
  subscriptions : m.session.switchboard.SameFor m'.session.switchboard v.id

theorem Machine.Spares.isolated {m m' : Machine} {v : Window} (h : m.Spares m' v.id)
    (hv : m.desktop.window? v.id = some v) : Isolated m m' v := by
  have hcore : (m'.desktop.window? v.id).map Window.core = some v.core := by
    have := h.core
    rwa [Desktop.core?, Desktop.core?, hv] at this
  obtain ⟨v', hv', hvv⟩ := Option.map_eq_some_iff.1 hcore
  exact ⟨⟨v', hv', Window.spared_of_core hvv⟩, h.subscriptions⟩

variable {d₀ : Desktop} {m m' : Machine} {ms later : List Machine}

/-- As long as no step acts on it, a live window is as it was, whatever becomes of the
others. -/
theorem run_isolation (h₀ : d₀.IsNew) (h : Run d₀ (m' :: (later ++ m :: ms))) {v : Window}
    (hv : m.desktop.window? v.id = some v) (hc : ∀ n ∈ later ++ [m], n.concerns v.id = false) : Isolated m m' v := by
  refine Machine.Spares.isolated ?_ hv
  refine h.since (P := fun n => m.Spares n v.id) (Q := fun n => n.concerns v.id = false) (R := fun _ => True)
    (fun n n' ns h hq _ hp => ?_) (.refl m v.id) hc fun _ _ => trivial
  cases h with
  | next h hn => exact hp.trans (Machine.next_spares hn (run_sound h₀ h) (run_stopped h) hq)

/-- A host that creates two windows, the second with a handler, and then deals with the
first alone: it is maximized and taken back, dragged, renamed and closed. -/
def dealWithFirst : Program :=
  .create [.passive { kind := "note" }, .passive { kind := "note" }] fun _ =>
    .subscribe ⟨2⟩ "ping" (fun _ _ => .accept) fun _ =>
      .then_ (.maximize ⟨1⟩) (.then_ (.maximize ⟨1⟩) (.then_ (.beginDrag ⟨1⟩ ⟨5, 5⟩) (.then_ (.pointerMove ⟨90, 40⟩)
        (.then_ .pointerUp (.then_ (.setTitle ⟨1⟩ "first") (.then_ (.setAddress ⟨1⟩ "a") (.then_ (.close ⟨1⟩) .accept)))))))

/-- The second window sinks, is locked and unlocked, and rises again. -/
theorem run_isolation_dealWithFirst :
    let s := Machine.start { desktop := .plain } dealWithFirst
    let later := [16, 15, 14, 13, 12, 11, 10].map fun n => Machine.step^[n] s
    Desktop.plain.IsNew ∧ Run .plain (Machine.step^[17] s :: (later ++ Machine.step^[9] s :: Machine.moments s 8)) ∧
      (∀ n ∈ later ++ [Machine.step^[9] s], n.concerns ⟨2⟩ = false) ∧
      ∃ v, (Machine.step^[9] s).desktop.window? ⟨2⟩ = some v ∧ v.id = ⟨2⟩ ∧
        Isolated (Machine.step^[9] s) (Machine.step^[17] s) v := by
  intro s later
  have hrun : Run .plain (Machine.step^[17] s :: (later ++ Machine.step^[9] s :: Machine.moments s 8)) :=
    Run.moments dealWithFirst 17
  have hc : ∀ n ∈ later ++ [Machine.step^[9] s], n.concerns ⟨2⟩ = false := by decide +kernel
  have hl : (Machine.step^[9] s).desktop.isLive ⟨2⟩ := by decide +kernel
  obtain ⟨v, hv⟩ := Desktop.exists_window hl
  have hid : v.id = ⟨2⟩ := (Desktop.mem_of_window? hv).2
  rw [← hid] at hc
  exact ⟨Desktop.isNew_plain, hrun, hid ▸ hc, v, hv, hid, run_isolation Desktop.isNew_plain hrun (hid ▸ hv) hc⟩

end FloatingPanels

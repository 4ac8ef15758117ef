import FloatingPanels.Proofs.SavedRect
/-!
# Permissions

A window's capabilities are asked for when it goes into the tray, is stuck, is maximized
or is closed, and not when it comes back: letting a window loose and releasing the
pointer ask for none. `run_permissions` says that this is enough. At every moment of every
run a window is in no mode that its capabilities do not allow, and what users do with the
pointer and by closing never removes a window that may not be closed.
-/

namespace FloatingPanels

/-! ## Modes -/

/-- A mode that windows with these capabilities may be in. -/
structure Mode.Permitted (mode : Mode) (caps : Capabilities) : Prop where
  hide : mode.isHidden → caps.hide
  stick : mode.isStuck → caps.stick
  /-- Only a maximized window has something to restore. -/
  maximize : mode.saved?.isSome → caps.maximize

theorem Mode.permitted_normal (caps : Capabilities) : normal.Permitted caps := ⟨nofun, nofun, nofun⟩

theorem Mode.permitted_ofRestore {restore : Option Rect} {caps : Capabilities} (h : restore.isSome → caps.maximize) :
    (ofRestore restore).Permitted caps := by
  cases restore with
  | none => exact permitted_normal caps
  | some saved => exact ⟨nofun, nofun, h⟩

namespace Desktop

variable {d d' : Desktop} {w : Window} {mode : Mode} {rect : Rect}

theorem permitted_released {caps : Capabilities} (h : mode.Permitted caps) : (Mode.released mode).Permitted caps := by
  cases mode with
  | dragging g => exact Mode.permitted_ofRestore h.maximize
  | resizing g => exact Mode.permitted_normal caps
  | _ => exact h

theorem Turn.permitted {a : Action} (h : Turn d w a mode rect) (hw : w.mode.Permitted w.caps) :
    mode.Permitted w.caps := by
  cases h with
  | fill _ hc => exact ⟨nofun, nofun, fun _ => hc⟩
  | normalize _ _ _ => exact Mode.permitted_normal w.caps
  | hide hr hc => exact ⟨fun _ => hc, nofun, Mode.saved?_of_atRest hr ▸ hw.maximize⟩
  | reveal _ hm _ =>
    rw [hm] at hw
    exact Mode.permitted_ofRestore hw.maximize
  | stick _ hr hc => exact ⟨nofun, fun _ => hc, Mode.saved?_of_atRest hr ▸ hw.maximize⟩
  | unstick _ hm =>
    rw [hm] at hw
    exact Mode.permitted_ofRestore hw.maximize
  | fit _ _ => exact hw
  | place _ => exact hw
  | drag _ _ => exact ⟨nofun, nofun, by simp [dragTo_saved?]⟩
  | resize _ _ => exact hw

theorem Grip.permitted {a : Action} (h : Grip w a mode) (hw : w.mode.Permitted w.caps) : mode.Permitted w.caps := by
  have hsaved := fun hm => hw.maximize (h.saved?_isSome hm)
  cases h with
  | drag _ _ => exact ⟨nofun, nofun, hsaved⟩
  | resize _ _ _ => exact ⟨nofun, nofun, hsaved⟩

theorem Fate.permitted {a : Option Action} (h : Fate d a d' w mode rect) (hw : w.mode.Permitted w.caps) :
    mode.Permitted w.caps := by
  cases h with
  | keep _ => exact hw
  | turn _ ht _ => exact ht.permitted hw
  | grip _ _ ht _ => exact ht.permitted hw
  | release _ _ _ => exact permitted_released hw
  | settle _ _ => exact hw

/-- All windows are in modes that they may be in. -/
def Permitted (d : Desktop) : Prop := ∀ i w, d.window? i = some w → w.mode.Permitted w.caps

theorem Shift.permitted {a : Option Action} (h : Shift d a d') (hp : d.Permitted) : d'.Permitted := by
  intro i w' hw'
  rcases h.fate (posture?_of_window? hw') with ⟨w, hw, -, hcaps, hf⟩ | ⟨-, hnew, -⟩
  · rw [show w'.caps = w.caps from hcaps]
    exact hf.permitted (hp i w hw)
  · rw [show w'.mode = .normal from hnew]
    exact Mode.permitted_normal w'.caps

end Desktop

/-! ## Removals -/

/-- Whether an action is one of users: what the pointer does, and a close. -/
def Action.isByUser : Action → Bool
  | .pointerDown _ | .doubleClick _ | .pointerMove _ | .pointerUp | .close _ => true
  | _ => false

namespace Desktop

variable {d d' : Desktop}

/-- No press of the pointer comes to a destruction. -/
theorem directed_eq_destroy {a : Action} {id : WindowId} (h : d.directed a = some (.destroy id)) : a = .destroy id := by
  cases a with
  | pointerDown p =>
    obtain ⟨⟨i, part⟩, -, ht⟩ := Option.map_eq_some_iff.1 h
    cases part with
    | control c => cases c <;> cases ht
    | _ => cases ht
  | doubleClick p =>
    obtain ⟨⟨i, part⟩, -, ht⟩ := Option.bind_eq_some_iff.1 h
    cases part <;> cases ht
  | _ => exact Option.some.inj h

theorem comesTo_eq_destroy {t : Task} {id : WindowId} (h : d.comesTo t = some (.destroy id)) :
    t = .act (.destroy id) ∨ ∃ kind v, v ≠ .ok true ∧ t = .conclude id kind v := by
  cases t with
  | idle => cases h
  | instantiate spec => cases h
  | act a => exact .inl (congrArg Task.act (directed_eq_destroy h))
  | complete i spec =>
    obtain ⟨anchor, -, ha⟩ := Option.map_eq_some_iff.1 h
    cases ha
  | conclude i kind v =>
    rcases v with failure | _ | _ <;> cases h
    · exact .inr ⟨kind, .error failure, nofun, rfl⟩
    · exact .inr ⟨kind, .ok false, nofun, rfl⟩

/-- A live window that may not be closed. -/
def Unclosable (d : Desktop) (id : WindowId) : Prop := ∃ w, d.window? id = some w ∧ w.caps.close = false

theorem Shift.unclosable {a : Option Action} (h : Shift d a d') {id : WindowId} (hu : d.Unclosable id)
    (ha : a ≠ some (.destroy id)) : d'.Unclosable id := by
  obtain ⟨w, hw, hc⟩ := hu
  have hl : d'.isLive id := by
    refine (h.live hw).resolve_right ?_
    rintro (hd | ⟨-, hclose⟩)
    · exact ha hd
    · rw [hc] at hclose
      cases hclose
  obtain ⟨w', hw'⟩ := exists_window hl
  refine ⟨w', hw', ?_⟩
  rw [(h.fate_of_window? hw hw').1]
  exact hc

/-- The desktop after some actions, one after the other. -/
def performAll (d : Desktop) (actions : List Action) : Desktop := actions.foldl (fun d a => (d.perform a).1) d

theorem Unclosable.performAll {id : WindowId} (hu : d.Unclosable id) (hs : Sound d) {actions : List Action}
    (ha : ∀ a ∈ actions, a.isByUser) : (d.performAll actions).Unclosable id := by
  induction actions generalizing d with
  | nil => exact hu
  | cons a actions ih =>
    refine ih ((perform_shift hs a).unclosable hu fun hd => ?_) ((perform_effect hs a).sound hs)
      fun b hb => ha b (List.mem_cons_of_mem a hb)
    have := ha a List.mem_cons_self
    rw [directed_eq_destroy hd] at this
    cases this

end Desktop

/-! ## Whole runs -/

variable {d₀ : Desktop} {m : Machine} {ms : List Machine}

theorem run_permitted (h₀ : d₀.IsNew) (h : Run d₀ (m :: ms)) : m.desktop.Permitted := by
  refine run_keeps (Q := fun _ => True) h₀ ?_ (fun _ _ hd hp => hd.permitted hp) h fun _ _ => trivial
  intro i w hw
  rw [Desktop.window?, h₀.windows] at hw
  cases hw

/-- How the capabilities of the windows are respected at a moment. -/
structure Permissions (m : Machine) : Prop where
  hidden : ∀ w ∈ m.desktop.windows, w.mode.isHidden → w.caps.hide
  stuck : ∀ w ∈ m.desktop.windows, w.mode.isStuck → w.caps.stick
  saved : ∀ w ∈ m.desktop.windows, w.mode.saved?.isSome → w.caps.maximize
  /-- Whatever users do, and however often, a window stays that may not be closed. -/
  stays : ∀ w ∈ m.desktop.windows, w.caps.close = false → ∀ actions : List Action, (∀ a ∈ actions, a.isByUser) →
    (m.desktop.performAll actions).isLive w.id
  /-- The code of panels and hosts can destroy it, and its construction hook can decline. -/
  removed : ∀ w ∈ m.desktop.windows, w.caps.close = false → ∀ m', m.Next m' → m'.desktop.isLive w.id = false →
    m.task = .act (.destroy w.id) ∨ ∃ kind v, v ≠ .ok true ∧ m.task = .conclude w.id kind v

theorem run_permissions (h₀ : d₀.IsNew) (h : Run d₀ (m :: ms)) : Permissions m := by
  have hs := run_sound h₀ h
  have hp : ∀ w ∈ m.desktop.windows, w.mode.Permitted w.caps := fun w hw =>
    run_permitted h₀ h w.id w (hs.window?_of_mem hw)
  refine ⟨fun w hw => (hp w hw).hide, fun w hw => (hp w hw).stick, fun w hw => (hp w hw).maximize, ?_, ?_⟩
  · intro w hw hc actions ha
    have hu : m.desktop.Unclosable w.id := ⟨w, hs.window?_of_mem hw, hc⟩
    obtain ⟨v, hv, -⟩ := hu.performAll hs ha
    exact Desktop.isLive_of_window? hv
  · intro w hw hc m' hn hdead
    by_contra htask
    have hu : m.desktop.Unclosable w.id := ⟨w, hs.window?_of_mem hw, hc⟩
    have hshift := Machine.next_shift hn hs
    obtain ⟨v, hv, -⟩ := hshift.unclosable hu fun hd => htask (Desktop.comesTo_eq_destroy hd)
    rw [Desktop.isLive_of_window? hv] at hdead
    cases hdead

/-- A host that creates a window that may not be closed, maximizes it and sticks it. -/
def stickUnclosable : Program :=
  .create [.passive { kind := "note", caps := { close := false, hide := false } }] fun _ =>
    .then_ (.maximize ⟨1⟩) (.then_ (.hide ⟨1⟩) (.then_ (.stick ⟨1⟩) .accept))

theorem run_permissions_stickUnclosable :
    let m := Machine.step^[8] (.start { desktop := .plain } stickUnclosable)
    Desktop.plain.IsNew ∧ Permissions m ∧ ∃ w ∈ m.desktop.windows, w.mode = .stuck (some ⟨0, 0, 50, 62⟩) ∧
      w.caps.close = false ∧
      (m.desktop.performAll [.close w.id, .pointerDown ⟨5, 5⟩, .doubleClick ⟨5, 5⟩, .pointerUp]).isLive w.id := by
  intro m
  have hm : (m.desktop.window? ⟨1⟩).map (fun w => (w.mode, w.caps.close)) =
      some (.stuck (some ⟨0, 0, 50, 62⟩), false) := by decide +kernel
  obtain ⟨w, hw, heq⟩ := Option.map_eq_some_iff.1 hm
  obtain ⟨hmode, hc⟩ := Prod.mk.inj heq
  have hw := (Desktop.mem_of_window? hw).1
  have h := run_permissions Desktop.isNew_plain (Run.moments stickUnclosable 8)
  exact ⟨Desktop.isNew_plain, h, w, hw, hmode, hc, h.stays w hw hc _ (by simp [Action.isByUser])⟩

end FloatingPanels

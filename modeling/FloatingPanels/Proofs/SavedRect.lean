import FloatingPanels.Proofs.Gestures
/-!
# Saved rectangles

A window that is maximized takes the rectangle from before with it through the tray,
while it is stuck, and while it is held by a drag. `run_saved` says that whatever is
done to it and to other windows, it has that rectangle again when it leaves maximized
mode, unless the drag has moved it in the meantime.
-/

namespace FloatingPanels

/-! ## What a window remembers -/

/-- The rectangle that a window has to restore. -/
def Mode.saved? : Mode → Option Rect
  | .maximized saved => some saved
  | .stuck restore => restore
  | .hidden restore => restore
  | .dragging g => g.restore
  | _ => none

theorem Mode.saved?_ofRestore (restore : Option Rect) : (ofRestore restore).saved? = restore := by
  cases restore <;> rfl

theorem Mode.saved?_of_atRest {mode : Mode} {restore : Option Rect} (h : mode.atRest = some restore) :
    mode.saved? = restore := by
  cases mode with
  | normal => exact Option.some.inj h
  | maximized saved => exact Option.some.inj h
  | _ => cases h

theorem Mode.saved?_of_isMaximized {mode : Mode} (h : mode.isMaximized) : mode.saved?.isSome := by
  cases mode with
  | maximized saved => rfl
  | stuck restore => exact h
  | dragging g => exact h
  | _ => cases h

namespace Desktop

variable {d d' : Desktop} {w : Window}

theorem released_saved? (mode : Mode) : (Mode.released mode).saved? = mode.saved? := by
  cases mode with
  | dragging g => exact Mode.saved?_ofRestore g.restore
  | _ => rfl

/-- The first move of a drag gives up the rectangle to restore. -/
theorem dragTo_saved? (d : Desktop) (w : Window) (g : Drag) (p : Point) : (d.dragTo w g p).mode.saved? = none := by
  simp only [dragTo]
  cases hr : g.restore with
  | none => exact hr
  | some saved => rfl

/-- A live window has this rectangle to restore, and may do so. -/
def Remembers (d : Desktop) (id : WindowId) (r : Rect) : Prop :=
  ∃ w, d.window? id = some w ∧ w.mode.saved? = some r ∧ w.caps.maximize

/-- Whether an action takes a window out of maximized mode, or drags it. -/
def unsettles (w : Window) (a : Action) : Bool :=
  match w.mode, a with
  | .maximized _, .normalize id => id = w.id
  | .maximized _, .maximize id => id = w.id
  | .dragging _, .pointerMove _ => true
  | _, _ => false

theorem Turn.saved? {a : Action} {mode : Mode} {rect r : Rect} (h : Turn d w a mode rect) (hr : w.mode.saved? = some r)
    (ha : ¬ unsettles w a) : mode.saved? = some r := by
  cases h with
  | fill hm _ => rcases hm with hm | hm <;> rw [hm] at hr <;> cases hr
  | normalize hb hm _ => rcases hb with rfl | rfl <;> simp [unsettles, hm] at ha
  | hide hm _ => exact (Mode.saved?_of_atRest hm) ▸ hr
  | reveal _ hm _ =>
    rw [hm] at hr
    exact (Mode.saved?_ofRestore _).trans hr
  | stick _ hm _ => exact (Mode.saved?_of_atRest hm) ▸ hr
  | unstick _ hm =>
    rw [hm] at hr
    exact (Mode.saved?_ofRestore _).trans hr
  | fit _ _ => exact hr
  | place _ => exact hr
  | drag _ hm => simp [unsettles, hm] at ha
  | resize _ _ => exact hr

/-- A drag takes what is saved with it. -/
theorem Grip.saved? {a : Action} {mode : Mode} {r : Rect} (h : Grip w a mode) (hr : w.mode.saved? = some r)
    (hg : w.mode.inGesture = false) : mode.saved? = some r := by
  cases hm : w.mode with
  | normal => rw [hm] at hr; cases hr
  | resizing g => rw [hm] at hr; cases hr
  | dragging g => rw [hm] at hg; cases hg
  | maximized saved =>
    cases h with
    | drag _ _ => rwa [hm] at hr ⊢
    | resize _ _ hx => rw [hm] at hx; cases hx
  | stuck restore =>
    cases h with
    | drag hs _ => rw [hm] at hs; cases hs
    | resize hs _ _ => rw [hm] at hs; cases hs
  | hidden restore =>
    cases h with
    | drag _ hh => rw [hm] at hh; cases hh
    | resize _ hh _ => rw [hm] at hh; cases hh

/-- A gesture begins with something to restore only on a window that has it. -/
theorem Grip.saved?_isSome {a : Action} {mode : Mode} (h : Grip w a mode) (hm : mode.saved?.isSome) :
    w.mode.saved?.isSome := by
  cases h with
  | resize _ _ _ => cases hm
  | drag _ _ =>
    cases hw : w.mode with
    | maximized saved => rfl
    | _ => rw [hw] at hm; cases hm

theorem Fate.saved? {a : Option Action} {mode : Mode} {rect r : Rect} (h : Fate d a d' w mode rect)
    (hco : d.Coherent) (hw : d.window? w.id = some w) (hr : w.mode.saved? = some r)
    (ha : ∀ b ∈ a, ¬ unsettles w b) : mode.saved? = some r := by
  cases h with
  | keep _ => exact hr
  | turn hb ht _ => exact ht.saved? hr (ha _ hb)
  | grip hb hg ht _ =>
    -- No gesture is going on, so the window is in none.
    refine ht.saved? hr (Bool.eq_false_iff.2 fun hm => ?_)
    rw [(hco w.id w.posture (posture?_of_window? hw)).1 hm] at hg
    cases hg
  | release _ _ _ => exact (released_saved? _).trans hr
  | settle _ _ => exact hr

theorem Shift.remembers {a : Option Action} (h : Shift d a d') (hco : d.Coherent) {id : WindowId} {r : Rect}
    (hr : d.Remembers id r) (hl : d'.isLive id)
    (ha : ∀ w ∈ d.window? id, ∀ b ∈ a, ¬ unsettles w b) : d'.Remembers id r := by
  obtain ⟨w, hw, hsaved, hc⟩ := hr
  obtain ⟨w', hw'⟩ := exists_window hl
  obtain ⟨hcaps, hf⟩ := h.fate_of_window? hw hw'
  refine ⟨w', hw', hf.saved? hco ?_ hsaved (ha w hw), ?_⟩
  · rwa [(mem_of_window? hw).2]
  · rw [hcaps]
    exact hc

/-! ## Into maximized mode and out of it -/

theorem remembers_maximize {id : WindowId} (hw : d.window? id = some w) (hm : w.mode = .normal)
    (ht : (d.perform (.maximize id)).2 = .flag true) : (d.perform (.maximize id)).1.Remembers id w.rect := by
  obtain ⟨-, rfl⟩ := mem_of_window? hw
  have hp : d.perform (.maximize w.id) = ((d.maximizeWindow w).1, .flag (d.maximizeWindow w).2) := by
    simp only [perform, maximize, onWindow, hw]
    rfl
  rw [hp] at ht ⊢
  by_cases hc : w.caps.maximize
  · have hf : d.maximizeWindow w = (d.fill w, true) := by simp [maximizeWindow, hc, hm]
    rw [hf]
    have hpost := (moved_fill (moved_refl hw)).posture w.id
    rw [if_pos rfl] at hpost
    obtain ⟨v, hv, -, hs⟩ := window?_of_posture? hpost
    refine ⟨v, hv, ?_, ?_⟩
    · rw [show v.mode = .maximized w.rect from congrArg Posture.mode hs]
      rfl
    · rw [show v.caps = w.caps from congrArg Posture.caps hs]
      exact hc
  · simp [maximizeWindow, hc] at ht

/-- A window that leaves maximized mode has the rectangle that it remembers. -/
theorem Remembers.perform {id : WindowId} {r : Rect} (hr : d.Remembers id r) {a : Action}
    (ha : a = .normalize id ∨ a = .maximize id)
    (hm : ∃ w saved, d.window? id = some w ∧ w.mode = .maximized saved) :
    ∃ d', d.perform a = (d', .flag true) ∧ ∃ w, d'.window? id = some w ∧ w.mode = .normal ∧ w.rect = r := by
  obtain ⟨w, hw, hsaved, hc⟩ := hr
  obtain ⟨v, saved, hv, hm⟩ := hm
  obtain rfl : w = v := Option.some.inj (hw.symm.trans hv)
  rw [hm] at hsaved
  obtain rfl := Option.some.inj hsaved
  obtain ⟨-, rfl⟩ := mem_of_window? hw
  refine ⟨d.change w.id fun v => { v with rect := saved, mode := .normal }, ?_, ?_⟩
  · rcases ha with rfl | rfl <;>
      simp [Desktop.perform, normalize, maximize, onWindow, hw, maximizeWindow, normalizeWindow, hm, hc, Answer.ofOutcome]
  · refine ⟨{ w with rect := saved, mode := .normal }, ?_, rfl, rfl⟩
    have hid : ∀ v : Window, { v with rect := saved, mode := .normal }.id = v.id := fun _ => rfl
    rw [window?_change hid, hw, Option.map_some]

end Desktop

variable {d₀ : Desktop} {m m' : Machine} {ms later : List Machine}

/-- What holds of a window that was maximized with the rectangle `r`. -/
structure Saved (m : Machine) (id : WindowId) (r : Rect) : Prop where
  remembers : m.desktop.Remembers id r
  /-- Either way out of maximized mode works and gives the rectangle back. -/
  back : ∀ a, (a = .normalize id ∨ a = .maximize id) →
    (∃ w saved, m.desktop.window? id = some w ∧ w.mode = .maximized saved) →
    ∃ d, m.desktop.perform a = (d, .flag true) ∧ (∃ w, d.window? id = some w ∧ w.mode = .normal ∧ w.rect = r) ∧
      ∀ m', m.Next m' → m.deed? = some a → m'.desktop = d

/-- Until it is taken out of maximized mode, dragged or destroyed, a window remembers
the rectangle that it had when it was maximized, and gets it back. -/
theorem run_saved (h₀ : d₀.IsNew) (h : Run d₀ (m' :: (later ++ m :: ms))) {id : WindowId} {w : Window}
    (hw : m.desktop.window? id = some w) (hm : w.mode = .normal) (ha : m.deed? = some (.maximize id))
    (ht : (m.desktop.perform (.maximize id)).2 = .flag true) (hl : ∀ n ∈ m' :: later, n.desktop.isLive id)
    (hu : ∀ n ∈ later, ∀ v ∈ n.desktop.window? id, ∀ a ∈ n.deed?, ¬ Desktop.unsettles v a) :
    Saved m' id w.rect := by
  suffices hr : m'.desktop.Remembers id w.rect by
    refine ⟨hr, fun a ha hmax => ?_⟩
    obtain ⟨d, hd, hw'⟩ := hr.perform ha hmax
    refine ⟨d, hd, hw', fun m'' hn hdeed => ?_⟩
    rw [Machine.next_deed hn hdeed, hd]
    rcases ha with rfl | rfl <;> exact nofun
  induction later generalizing m' with
  | nil =>
    cases h with
    | next _ hn =>
      rw [Machine.next_deed hn ha nofun]
      exact Desktop.remembers_maximize hw hm ht
  | cons n later ih =>
    have hs := run_shift h₀ h
    cases h with
    | next h _ =>
      have hr := ih h (fun k hk => hl k (List.mem_cons_of_mem _ hk)) fun k hk => hu k (List.mem_cons_of_mem _ hk)
      exact hs.remembers (run_coherent h₀ h) hr (hl m' List.mem_cons_self) (hu n List.mem_cons_self)

/-- A host that maximizes a window, hides it, reveals it in another viewport, sticks it
and drags it without a move, and then maximizes it again. -/
def detour : Program :=
  .create [.passive { kind := "note" }] fun _ => .then_ (.maximize ⟨1⟩) (.then_ (.hide ⟨1⟩) (.then_ (.setViewport ⟨300, 200⟩)
    (.then_ (.maximize ⟨1⟩) (.then_ (.stick ⟨1⟩) (.then_ (.unstick ⟨1⟩) (.then_ (.beginDrag ⟨1⟩ ⟨5, 5⟩)
      (.then_ .pointerUp (.then_ (.maximize ⟨1⟩) .accept))))))))

theorem run_saved_detour :
    let s := Machine.start { desktop := .plain } detour
    let later := [12, 11, 10, 9, 8, 7, 6].map fun n => Machine.step^[n] s
    Desktop.plain.IsNew ∧ Run .plain (Machine.step^[13] s :: (later ++ Machine.step^[5] s :: Machine.moments s 4)) ∧
      (∃ w, (Machine.step^[5] s).desktop.window? ⟨1⟩ = some w ∧ w.mode = .normal ∧ w.rect = ⟨0, 0, 50, 62⟩) ∧
      ((Machine.step^[5] s).desktop.perform (.maximize ⟨1⟩)).2 = .flag true ∧
      (∀ n ∈ later, ∀ v ∈ n.desktop.window? ⟨1⟩, ∀ a ∈ n.deed?, ¬ Desktop.unsettles v a) ∧
      Saved (Machine.step^[13] s) ⟨1⟩ ⟨0, 0, 50, 62⟩ := by
  intro s later
  have hrun : Run .plain (Machine.step^[13] s :: (later ++ Machine.step^[5] s :: Machine.moments s 4)) :=
    Run.moments detour 13
  obtain ⟨hw, ht, hl, hu⟩ :
      ((Machine.step^[5] s).desktop.window? ⟨1⟩).map (fun w => (w.mode, w.rect)) = some (.normal, ⟨0, 0, 50, 62⟩) ∧
      ((Machine.step^[5] s).desktop.perform (.maximize ⟨1⟩)).2 = .flag true ∧
      (∀ n ∈ Machine.step^[13] s :: later, n.desktop.isLive ⟨1⟩) ∧
      ∀ n ∈ later, ∀ v ∈ n.desktop.window? ⟨1⟩, ∀ a ∈ n.deed?, ¬ Desktop.unsettles v a := by decide +kernel
  obtain ⟨w, hw, heq⟩ := Option.map_eq_some_iff.1 hw
  obtain ⟨hm, hr⟩ := Prod.mk.inj heq
  exact ⟨Desktop.isNew_plain, hrun, ⟨w, hw, hm, hr⟩, ht, hu,
    hr ▸ run_saved Desktop.isNew_plain hrun hw hm rfl ht hl hu⟩

end FloatingPanels

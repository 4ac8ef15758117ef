import FloatingPanels.Proofs.Desktop.Posture
import FloatingPanels.Proofs.Rect
/-!
# Shifts

What an action can do to the mode and the rectangle of its window is a `Turn`; how a
gesture begins is a `Grip`. A `Shift` is all that an action does to the postures and to
the gesture, in seven cases, and so is all that a part of a creation does. The theorems
about modes, rectangles and locks are case analyses over it.
-/

namespace FloatingPanels.Desktop

/-! ## What happens to one window -/

/-- The rectangle of a window that is fitted to its content along the axes of a handle. -/
def fitRect (d : Desktop) (w : Window) (h : Handle) : Rect :=
  { w.rect with
    width := if h.sides.horizontal then (w.frame.fitSize d.settings.metrics).width else w.rect.width
    height := if h.sides.vertical then (w.frame.fitSize d.settings.metrics).height else w.rect.height }

/-- The rectangle of a window that is placed below another rectangle. -/
def underRect (d : Desktop) (w : Window) (a : Rect) : Rect :=
  { w.rect with left := a.left, top := a.bottom }.clamp d.page.viewport.width

/-- An action takes its window to another mode and another rectangle. -/
inductive Turn (d : Desktop) (w : Window) : Action → Mode → Rect → Prop
  | fill (hm : w.mode = .normal ∨ w.mode = .hidden none) (hc : w.caps.maximize) :
      Turn d w (.maximize w.id) (.maximized w.rect) (d.fillRect w)
  | normalize {a : Action} {saved : Rect} (ha : a = .normalize w.id ∨ a = .maximize w.id)
      (hm : w.mode = .maximized saved) (hc : w.caps.maximize) : Turn d w a .normal saved
  | hide {restore : Option Rect} (hm : w.mode.atRest = some restore) (hc : w.caps.hide) :
      Turn d w (.hide w.id) (.hidden restore) w.rect
  | reveal {a : Action} {restore : Option Rect} (ha : a = .reveal w.id ∨ a = .maximize w.id)
      (hm : w.mode = .hidden restore) (hc : w.caps.hide) : Turn d w a (.ofRestore restore) w.rect
  | stick {a : Action} {restore : Option Rect} (ha : a = .stick w.id ∨ a = .toggleStick w.id)
      (hm : w.mode.atRest = some restore) (hc : w.caps.stick) : Turn d w a (.stuck restore) w.rect
  | unstick {a : Action} {restore : Option Rect} (ha : a = .unstick w.id ∨ a = .toggleStick w.id)
      (hm : w.mode = .stuck restore) : Turn d w a (.ofRestore restore) w.rect
  | fit {h : Handle} (hs : w.mode.isStuck = false) (hh : w.mode.isHidden = false) :
      Turn d w (.fit w.id h) w.mode (d.fitRect w h)
  | place {anchor : String} {a : Rect} (ha : d.page.anchor? anchor = some a) :
      Turn d w (.placeUnder w.id anchor) w.mode (d.underRect w a)
  | drag {p : Point} {g : Drag} (hg : d.gesture = some w.id) (hm : w.mode = .dragging g) :
      Turn d w (.pointerMove p) (d.dragTo w g p).mode (d.dragTo w g p).rect
  | resize {p : Point} {g : Resize} (hg : d.gesture = some w.id) (hm : w.mode = .resizing g) :
      Turn d w (.pointerMove p) w.mode (d.resizeTo w g p).rect

/-- An action begins a gesture on its window. -/
inductive Grip (w : Window) : Action → Mode → Prop
  | drag {p : Point} (hs : w.mode.isStuck = false) (hh : w.mode.isHidden = false) :
      Grip w (.beginDrag w.id p) (.dragging (.begin p w.rect (match w.mode with
        | .maximized saved => some saved
        | _ => none)))
  | resize {h : Handle} {p : Point} (hs : w.mode.isStuck = false) (hh : w.mode.isHidden = false)
      (hx : w.mode.isMaximized = false) : Grip w (.beginResize w.id h p) (.resizing ⟨h, p, w.rect⟩)

/-! ## What happens to all windows -/

/-- What an action on windows makes of the postures and of the gesture; `none` stands
for what comes to no action. -/
inductive Shift (d : Desktop) (a : Option Action) (d' : Desktop) : Prop
  | still (h : Unmoved d d')
  | move {w : Window} {b : Action} {mode : Mode} {rect : Rect} (hw : d.window? w.id = some w) (ha : a = some b)
      (ht : Turn d w b mode rect) (h : Moved d d' w mode rect)
  | start {w : Window} {b : Action} {mode : Mode} (hw : d.window? w.id = some w) (ha : a = some b)
      (hg : d.gesture = none) (ht : Grip w b mode)
      (hp : ∀ i, d'.posture? i = (if i = w.id then some { w.posture with mode } else d.posture? i).map fun s =>
        { s with locked := true })
      (hg' : d'.gesture = some w.id) (hd : d'.ground = d.ground)
  | release {id : WindowId} (ha : a = some .pointerUp) (hg : d.gesture = some id)
      (hp : ∀ i, d'.posture? i = (d.posture? i).map fun s =>
        { s with mode := if i = id then Mode.released s.mode else s.mode, locked := false })
      (hg' : d'.gesture = none) (hd : d'.ground = d.ground)
  | viewport {size : Size} (ha : a = some (.setViewport size))
      (hp : ∀ i, d'.posture? i = (d.window? i).map fun w => { w.posture with rect := settledRect d'.page w })
      (hg : d'.gesture = d.gesture) (hv : d'.page = d.page.setViewport size) (hs : d'.settings = d.settings)
  | add {id : WindowId} {s : Posture} (hid : d.posture? id = none) (hm : s.mode = .normal)
      (hr : s.rect.clamp d.ground.viewport.width = s.rect)
      (hl : d.chrome.attr Frame.lockAttr = none → s.locked = d.gesture.isSome)
      (hp : ∀ i, d'.posture? i = if i = id then some s else d.posture? i)
      (hg : d'.gesture = d.gesture) (hd : d'.ground = d.ground)
  | remove {w : Window} (hw : d.window? w.id = some w)
      (ha : a = some (.destroy w.id) ∨ a = some (.close w.id) ∧ w.caps.close)
      (hp : ∀ i, d'.posture? i = if i = w.id then none else
        if d.gesture = some w.id then (d.posture? i).map fun s => { s with locked := false } else d.posture? i)
      (hg : d'.gesture = if d.gesture = some w.id then none else d.gesture) (hd : d'.ground = d.ground)

variable {d d₁ d' : Desktop} {a : Action} {w : Window}

theorem Shift.refl (d : Desktop) (a : Option Action) : Shift d a d := .still (.refl d)

/-- What moves no window adds nothing. -/
theorem Shift.trans {a : Option Action} (h : Shift d a d₁) (h' : Unmoved d₁ d') (hd : d'.page = d₁.page)
    (hs : d'.settings = d₁.settings) : Shift d a d' := by
  cases h with
  | still h => exact .still (h.trans h')
  | move hw ha ht h => exact .move hw ha ht (h.trans h')
  | start hw ha hg ht hp hg' hd =>
    exact .start hw ha hg ht (fun i => (h'.posture i).trans (hp i)) (h'.gesture.trans hg') (h'.ground.trans hd)
  | release ha hg hp hg' hd =>
    exact .release ha hg (fun i => (h'.posture i).trans (hp i)) (h'.gesture.trans hg') (h'.ground.trans hd)
  | viewport ha hp hg hv hs' =>
    exact .viewport ha (fun i => by rw [h'.posture, hp, hd]) (h'.gesture.trans hg) (hd.trans hv) (hs.trans hs')
  | add hid hm hr hl hp hg hd =>
    exact .add hid hm hr hl (fun i => (h'.posture i).trans (hp i)) (h'.gesture.trans hg) (h'.ground.trans hd)
  | remove hw ha hp hg hd =>
    exact .remove hw ha (fun i => (h'.posture i).trans (hp i)) (h'.gesture.trans hg) (h'.ground.trans hd)

/-! ## What a shift makes of one window -/

/-- A window that stays live through an action keeps its mode and its rectangle, or the
action is about it, or about all windows. -/
inductive Fate (d : Desktop) (a : Option Action) (d' : Desktop) (w : Window) : Mode → Rect → Prop
  | keep (hd : d'.ground = d.ground) : Fate d a d' w w.mode w.rect
  | turn {b : Action} {mode : Mode} {rect : Rect} (ha : a = some b) (ht : Turn d w b mode rect)
      (hd : d'.ground = d.ground) : Fate d a d' w mode rect
  | grip {b : Action} {mode : Mode} (ha : a = some b) (hg : d.gesture = none) (ht : Grip w b mode)
      (hd : d'.ground = d.ground) : Fate d a d' w mode w.rect
  | release (ha : a = some .pointerUp) (hg : d.gesture = some w.id) (hd : d'.ground = d.ground) :
      Fate d a d' w (Mode.released w.mode) w.rect
  | settle {size : Size} (ha : a = some (.setViewport size)) (hv : d'.page = d.page.setViewport size) :
      Fate d a d' w w.mode (settledRect d'.page w)

/-- A window that is live after an action was live before it, or is new. -/
theorem Shift.fate {a : Option Action} (h : Shift d a d') {i : WindowId} {s : Posture} (hi : d'.posture? i = some s) :
    (∃ w, d.window? i = some w ∧ s.container = w.container ∧ s.caps = w.caps ∧ Fate d a d' w s.mode s.rect) ∨
      (d.posture? i = none ∧ s.mode = .normal ∧ s.rect.clamp d.ground.viewport.width = s.rect ∧
        d'.ground = d.ground) := by
  -- Where the shift keeps the posture.
  have keep : d'.ground = d.ground → d.posture? i = some s →
      ∃ w, d.window? i = some w ∧ s.container = w.container ∧ s.caps = w.caps ∧ Fate d a d' w s.mode s.rect := by
    intro hd hi
    obtain ⟨w, hw, -, rfl⟩ := window?_of_posture? hi
    exact ⟨w, hw, rfl, rfl, .keep hd⟩
  cases h with
  | still h => exact .inl (keep h.ground (h.posture i ▸ hi))
  | @move w _ _ _ hw ha ht h =>
    rw [h.posture] at hi
    split at hi
    · rename_i hid
      cases hi
      exact .inl ⟨w, hid ▸ hw, rfl, rfl, .turn ha ht h.ground⟩
    · exact .inl (keep h.ground hi)
  | @start w _ _ hw ha hg ht hp _ hd =>
    rw [hp] at hi
    obtain ⟨t, hit, rfl⟩ := Option.map_eq_some_iff.1 hi
    split at hit
    · rename_i hid
      cases hit
      exact .inl ⟨w, hid ▸ hw, rfl, rfl, .grip ha hg ht hd⟩
    · obtain ⟨v, hv, -, rfl⟩ := window?_of_posture? hit
      exact .inl ⟨v, hv, rfl, rfl, .keep hd⟩
  | @release id ha hg hp _ hd =>
    rw [hp] at hi
    obtain ⟨t, hit, rfl⟩ := Option.map_eq_some_iff.1 hi
    obtain ⟨v, hv, hid, rfl⟩ := window?_of_posture? hit
    refine .inl ⟨v, hv, rfl, rfl, ?_⟩
    dsimp only
    split
    · rename_i heq
      exact .release ha (by rw [hg, ← heq, hid]) hd
    · exact .keep hd
  | viewport ha hp _ hv _ =>
    rw [hp] at hi
    obtain ⟨w, hw, rfl⟩ := Option.map_eq_some_iff.1 hi
    exact .inl ⟨w, hw, rfl, rfl, .settle ha hv⟩
  | add hid hm hr _ hp _ hd =>
    rw [hp] at hi
    split at hi
    · rename_i heq
      cases hi
      exact .inr ⟨heq ▸ hid, hm, hr, hd⟩
    · exact .inl (keep hd hi)
  | remove _ _ hp _ hd =>
    rw [hp] at hi
    split at hi
    · cases hi
    · split at hi
      · obtain ⟨t, hit, rfl⟩ := Option.map_eq_some_iff.1 hi
        obtain ⟨v, hv, -, rfl⟩ := window?_of_posture? hit
        exact .inl ⟨v, hv, rfl, rfl, .keep hd⟩
      · exact .inl (keep hd hi)

/-- The fate of a window that is live before and after. -/
theorem Shift.fate_of_window? {a : Option Action} (h : Shift d a d') {i : WindowId} {w w' : Window}
    (hw : d.window? i = some w) (hw' : d'.window? i = some w') : w'.caps = w.caps ∧ Fate d a d' w w'.mode w'.rect := by
  rcases h.fate (posture?_of_window? hw') with ⟨v, hv, -, hcaps, hf⟩ | ⟨hnew, -, -⟩
  · obtain rfl : w = v := Option.some.inj (hw.symm.trans hv)
    exact ⟨hcaps, hf⟩
  · rw [posture?_of_window? hw] at hnew
    cases hnew

/-- A live window stays live unless it is destroyed, or closed and it may be closed. -/
theorem Shift.live {a : Option Action} (h : Shift d a d') {i : WindowId} {w : Window} (hw : d.window? i = some w) :
    d'.isLive i ∨ a = some (.destroy i) ∨ a = some (.close i) ∧ w.caps.close := by
  have hi : (d.posture? i).isSome := by rw [posture?_of_window? hw, Option.isSome_some]
  rw [← posture?_isSome]
  cases h with
  | still h => exact .inl (by rwa [h.posture])
  | move _ _ _ h =>
    rw [h.posture]
    split
    · exact .inl rfl
    · exact .inl hi
  | start _ _ _ _ hp _ _ =>
    rw [hp, Option.isSome_map]
    split
    · exact .inl rfl
    · exact .inl hi
  | release _ _ hp _ _ => exact .inl (by rwa [hp, Option.isSome_map])
  | viewport _ hp _ _ _ => exact .inl (by rw [hp, hw, Option.map_some, Option.isSome_some])
  | add _ _ _ _ hp _ _ =>
    rw [hp]
    split
    · exact .inl rfl
    · exact .inl hi
  | @remove v hv ha hp _ _ =>
    by_cases hid : i = v.id
    · subst hid
      obtain rfl : v = w := Option.some.inj (hv.symm.trans hw)
      exact .inr ha
    · rw [hp, if_neg hid]
      split
      · exact .inl (by rwa [Option.isSome_map])
      · exact .inl hi

/-- Only another viewport changes what windows stand on. -/
theorem Shift.ground {a : Option Action} (h : Shift d a d') : d'.ground = d.ground ∨
    ∃ size, a = some (.setViewport size) ∧ d'.page = d.page.setViewport size ∧ d'.settings = d.settings := by
  cases h with
  | still h => exact .inl h.ground
  | move _ _ _ h => exact .inl h.ground
  | start _ _ _ _ _ _ h => exact .inl h
  | release _ _ _ _ h => exact .inl h
  | viewport ha _ _ hv hs => exact .inr ⟨_, ha, hv, hs⟩
  | add _ _ _ _ _ _ h => exact .inl h
  | remove _ _ _ _ h => exact .inl h

/-! ## Operations on a window -/

/-- An operation on a window, by what it does to a live one. -/
theorem shift_onWindow {id : WindowId} {f : Window → Desktop × Bool}
    (h : ∀ w, d.window? w.id = some w → w.id = id → Shift d (some a) (f w).1) :
    Shift d (some a) (Answer.ofOutcome d (d.onWindow id f)).1 := by
  unfold onWindow
  split
  · exact .refl d _
  · rename_i w hw
    obtain ⟨-, rfl⟩ := mem_of_window? hw
    exact h w hw rfl

/-! ## Changes of mode -/

theorem moved_refl (hw : d.window? w.id = some w) : Moved d d w w.mode w.rect := by
  refine ⟨fun i => ?_, rfl, rfl⟩
  by_cases hi : i = w.id
  · rw [if_pos hi, hi]
    exact posture?_of_window? hw
  · rw [if_neg hi]

theorem moved_fill {mode : Mode} {rect : Rect} (h : Moved d d₁ w mode rect) :
    Moved d (d₁.fill w) w (.maximized w.rect) (d.fillRect w) := by
  have hr : d₁.fillRect w = d.fillRect w := by rw [fillRect_eq, h.ground, fillRect_eq]
  unfold fill
  rw [hr]
  have hc := h.change (f := fun v => { v with rect := d.fillRect w, mode := .maximized w.rect }) (fun _ => rfl)
    fun _ => rfl
  exact hc.trans (unmoved_raise _ w.id)

theorem moved_revealWindow (hw : d.window? w.id = some w) {restore : Option Rect} (hm : w.mode = .hidden restore)
    (hc : w.caps.hide) : Moved d (d.revealWindow w).1 w (.ofRestore restore) w.rect := by
  simp only [revealWindow, hm, hc, if_true]
  have h := moved_change hw (f := fun v => { v with mode := .ofRestore restore }) (fun _ => rfl) rfl
  -- The tray has no part in postures.
  have hr := h.trans (unmoved_raise _ w.id)
  exact ⟨hr.posture, hr.gesture, hr.ground⟩

theorem shift_normalizeWindow (hw : d.window? w.id = some w) (ha : a = .normalize w.id ∨ a = .maximize w.id) :
    Shift d (some a) (d.normalizeWindow w).1 := by
  unfold normalizeWindow
  split
  · rename_i saved hm
    split
    · rename_i hc
      exact .move hw rfl (.normalize ha hm hc) (moved_change hw (fun _ => rfl) rfl)
    · exact .refl d _
  · exact .refl d _

theorem shift_revealWindow (hw : d.window? w.id = some w) (ha : a = .reveal w.id ∨ a = .maximize w.id) :
    Shift d (some a) (d.revealWindow w).1 := by
  by_cases h : ∃ restore, w.mode = .hidden restore ∧ w.caps.hide
  · obtain ⟨restore, hm, hc⟩ := h
    exact .move hw rfl (.reveal ha hm hc) (moved_revealWindow hw hm hc)
  · have hd : d.revealWindow w = (d, false) := by
      unfold revealWindow
      split
      · rename_i restore hm
        rw [if_neg fun hc => h ⟨restore, hm, hc⟩]
      · rfl
    rw [hd]
    exact .refl d _

theorem shift_maximizeWindow (hs : Sound d) (hw : d.window? w.id = some w) :
    Shift d (some (.maximize w.id)) (d.maximizeWindow w).1 := by
  unfold maximizeWindow
  split
  · exact .refl d _
  · rename_i hmax
    have hmax : w.caps.maximize := by simpa using hmax
    cases hm : w.mode with
    | stuck restore => exact .refl d _
    | dragging g => exact .refl d _
    | resizing g => exact .refl d _
    | maximized saved => exact shift_normalizeWindow hw (.inr rfl)
    | normal => exact .move hw rfl (.fill (.inl hm) hmax) (moved_fill (moved_refl hw))
    | hidden restore =>
      -- Without the capability the window would not be hidden.
      have hc : w.caps.hide :=
        hs.hides w.entry (List.mem_map_of_mem (mem_of_window? hw).1) (by simp [Window.entry, hm, Mode.isHidden])
      cases restore with
      | none => exact .move hw rfl (.fill (.inr hm) hmax) (moved_fill (moved_revealWindow hw hm hc))
      | some saved =>
        simp only [hc, if_true]
        exact shift_revealWindow hw (.inr rfl)

theorem shift_hide (id : WindowId) : Shift d (some (.hide id)) (Answer.ofOutcome d (d.hide id)).1 := by
  refine shift_onWindow fun w hw hid => ?_
  subst hid
  split
  · rename_i restore hr
    split
    · rename_i hc
      have h := moved_change hw (f := fun v => { v with mode := .hidden restore }) (fun _ => rfl) rfl
      exact .move hw rfl (.hide hr hc) ⟨h.posture, h.gesture, h.ground⟩
    · exact .refl d _
  · exact .refl d _

theorem shift_stick (id : WindowId) (ha : a = .stick id ∨ a = .toggleStick id) :
    Shift d (some a) (Answer.ofOutcome d (d.stick id)).1 := by
  refine shift_onWindow fun w hw hid => ?_
  subst hid
  split
  · rename_i restore hr
    split
    · rename_i hc
      exact .move hw rfl (.stick ha hr hc) (moved_change hw (fun _ => rfl) rfl)
    · exact .refl d _
  · exact .refl d _

theorem shift_unstick (id : WindowId) (ha : a = .unstick id ∨ a = .toggleStick id) :
    Shift d (some a) (Answer.ofOutcome d (d.unstick id)).1 := by
  refine shift_onWindow fun w hw hid => ?_
  subst hid
  split
  · rename_i restore hm
    exact .move hw rfl (.unstick ha hm) (moved_change hw (fun _ => rfl) rfl)
  · exact .refl d _

theorem shift_toggleStick (id : WindowId) :
    Shift d (some (.toggleStick id)) (Answer.ofOutcome d (d.toggleStick id)).1 := by
  unfold toggleStick
  split
  · exact .refl d _
  · split
    · exact shift_unstick id (.inr rfl)
    · exact shift_stick id (.inr rfl)

theorem shift_fit (id : WindowId) (h : Handle) : Shift d (some (.fit id h)) (Answer.ofOutcome d (d.fit id h)).1 := by
  refine shift_onWindow fun w hw hid => ?_
  subst hid
  split
  · exact .refl d _
  · rename_i hn
    rw [Bool.or_eq_true, not_or, Bool.not_eq_true, Bool.not_eq_true] at hn
    show Shift d _ (if d.fitRect w h = w.rect then (d, false)
      else (d.change w.id fun v => { v with rect := d.fitRect w h }, true)).1
    split
    · exact .refl d _
    · exact .move hw rfl (.fit hn.1 hn.2) (moved_change hw (fun _ => rfl) rfl)

theorem shift_placeUnder {id : WindowId} {anchor : String} (h : d.placeUnder id anchor = .ok d') :
    Shift d (some (.placeUnder id anchor)) d' := by
  unfold placeUnder at h
  split at h
  · cases h
  · rename_i r hr
    split at h
    · rename_i hl
      cases h
      obtain ⟨w, hw⟩ := exists_window hl
      obtain ⟨-, rfl⟩ := mem_of_window? hw
      exact .move hw rfl (.place hr) (moved_change hw (fun _ => rfl) rfl)
    · cases h

/-! ## Gestures -/

theorem shift_start (hw : d.window? w.id = some w) (hg : d.gesture = none) {mode : Mode} (ht : Grip w a mode) :
    Shift d (some a) (d.start w.id mode) := by
  have h := (moved_change hw (f := fun v => { v with mode }) (fun _ => rfl) rfl).trans (unmoved_raise _ w.id)
  refine .start hw rfl hg ht (fun i => ?_) rfl h.ground
  have hl := posture?_lockAll { ((d.change w.id fun v => { v with mode }).raise w.id).1 with gesture := some w.id } true i
  exact hl.trans (congrArg _ (h.posture i))

theorem canStart_eq (d : Desktop) (w : Window) :
    d.canStart w = true ↔ d.gesture = none ∧ w.mode.isStuck = false ∧ w.mode.isHidden = false := by
  simp only [canStart, Bool.and_eq_true, Bool.not_eq_true', Option.isNone_iff_eq_none, and_assoc]

theorem shift_beginDrag (id : WindowId) (p : Point) :
    Shift d (some (.beginDrag id p)) (Answer.ofOutcome d (d.beginDrag id p)).1 := by
  refine shift_onWindow fun w hw hid => ?_
  subst hid
  split
  · rename_i hc
    obtain ⟨hg, hs, hh⟩ := (canStart_eq d w).1 hc
    exact shift_start hw hg (.drag hs hh)
  · exact .refl d _

theorem shift_beginResize (id : WindowId) (h : Handle) (p : Point) :
    Shift d (some (.beginResize id h p)) (Answer.ofOutcome d (d.beginResize id h p)).1 := by
  refine shift_onWindow fun w hw hid => ?_
  subst hid
  split
  · rename_i hc
    obtain ⟨hc, hx⟩ := Bool.and_eq_true_iff.1 hc
    obtain ⟨hg, hs, hh⟩ := (canStart_eq d w).1 hc
    exact shift_start hw hg (.resize hs hh (by simpa using hx))
  · exact .refl d _

theorem shift_pointerMove (p : Point) : Shift d (some (.pointerMove p)) (d.pointerMove p).1 := by
  unfold pointerMove
  split
  · exact .refl d _
  · rename_i id hg
    split
    · exact .refl d _
    · rename_i w hw
      obtain ⟨-, rfl⟩ := mem_of_window? hw
      split
      · rename_i g hm
        exact .move hw rfl (.drag hg hm) (moved_change hw (fun _ => rfl) rfl)
      · rename_i g hm
        exact .move hw rfl (.resize hg hm) (moved_change hw (fun _ => rfl) rfl)
      · exact .refl d _

theorem shift_pointerUp (d : Desktop) : Shift d (some .pointerUp) d.pointerUp.1 := by
  unfold pointerUp
  split
  · exact .refl d _
  · rename_i id hg
    refine .release rfl hg (fun i => ?_) rfl rfl
    have hc := @posture?_change d id (fun w => { w with mode := Mode.released w.mode })
      (fun s => { s with mode := Mode.released s.mode }) (fun _ => rfl) (fun _ _ => rfl) i
    refine (posture?_lockAll { (d.change id fun w => { w with mode := Mode.released w.mode }) with gesture := none }
      false i).trans ((congrArg _ hc).trans ?_)
    by_cases hi : i = id
    · simp only [hi, if_true, Option.map_map]
      rfl
    · simp only [hi, if_false]

/-! ## All other actions -/

theorem shift_setViewport (d : Desktop) (s : Size) : Shift d (some (.setViewport s)) (d.setViewport s) := by
  refine .viewport rfl (posture?_map (f := fun w => { w with rect := settledRect (d.page.setViewport s) w }) rfl ?_)
    rfl rfl rfl
  exact fun _ => rfl

theorem shift_remove (hw : d.window? w.id = some w)
    (ha : some a = some (.destroy w.id) ∨ some a = some (.close w.id) ∧ w.caps.close) :
    Shift d (some a) (d.remove w) := by
  have hrects : (d.page.detach w.id).rects = d.page.rects := d.page.rects_detach w.id
  by_cases hg : d.gesture = some w.id
  · simp only [remove, hg, if_true]
    refine .remove hw ha (fun i => ?_) (by rw [if_pos hg]; rfl)
      (by simp only [ground, endGesture, lockAll, hrects]; rfl)
    refine (posture?_lockAll _ false i).trans ?_
    rw [posture?_without (d := d) (w := w) rfl, if_pos hg]
    by_cases hi : i = w.id <;> simp [hi]
  · simp only [remove, hg, if_false]
    refine .remove hw ha (fun i => ?_) (by rw [if_neg hg]) (by simp only [ground, hrects]; rfl)
    rw [if_neg hg]
    exact posture?_without rfl i

theorem unmoved_changeFrame (id : WindowId) {f : Frame → Frame} (hf : ∀ x, (f x).isLocked = x.isLocked) :
    Unmoved d (d.changeFrame id f).1 := by
  unfold changeFrame
  split
  · exact unmoved_change (fun _ => rfl) fun v _ => by simp only [Window.posture, hf]
  · exact .refl d

theorem unmoved_setContentText (id : WindowId) (name text : String) :
    Unmoved d (d.setContentText id name text).1 := by
  unfold setContentText
  split
  · rename_i frame hf
    obtain ⟨w, hw, hf⟩ := Option.bind_eq_some_iff.1 hf
    refine unmoved_change (fun _ => rfl) fun v hv => ?_
    obtain rfl : w = v := Option.some.inj (hw.symm.trans hv)
    simp only [Window.posture, Frame.isLocked_setContentText? hf]
  · exact .refl d

theorem unmoved_setAddress (id : WindowId) (address : String) : Unmoved d (d.setAddress id address).1 := by
  unfold setAddress
  split
  · exact .refl d
  · have h : Unmoved d (d.change id fun w => { w with address := some address }) :=
      unmoved_change (fun _ => rfl) fun _ _ => rfl
    exact ⟨h.posture, h.gesture, h.ground⟩

theorem unmoved_embed (id : WindowId) (widget : String) : Unmoved d (d.embed id widget).1 := by
  unfold embed
  split
  · exact unmoved_change (fun _ => rfl) fun _ _ => rfl
  · exact .refl d

/-- Every action on a window, whatever its outcome. -/
theorem shift_direct (hs : Sound d) (a : Action) (ha : d.directed a = some a) :
    Shift d (some a) (d.perform a).1 := by
  have same : ∀ {d'}, d'.windows = d.windows → d'.gesture = d.gesture → d'.ground = d.ground → Shift d (some a) d' :=
    fun hw hg hd => .still ⟨fun i => by rw [posture?, window?, hw]; rfl, hg, hd⟩
  cases a with
  | registerTemplate kind markup => exact same rfl rfl rfl
  | registerPreset kind name data => exact same rfl rfl rfl
  | setChrome markup =>
    simp only [perform, setChrome]
    cases Fragment.parse markup with
    | ok chrome => exact same rfl rfl rfl
    | error e => exact .refl d _
  | setSensitivity n => exact same rfl rfl rfl
  | setViewport s => exact shift_setViewport d s
  | setAnchor name rect => exact same rfl rfl rfl
  | destroy id =>
    simp only [perform, destroy]
    split
    · exact .refl d _
    · rename_i w hw
      obtain ⟨-, rfl⟩ := mem_of_window? hw
      exact shift_remove hw (.inl rfl)
  | close id =>
    refine shift_onWindow fun w hw hid => ?_
    subst hid
    split
    · rename_i hc
      exact shift_remove hw (.inr ⟨rfl, hc⟩)
    · exact .refl d _
  | bringToFront id => exact shift_onWindow fun w _ _ => .still (unmoved_raise d id)
  | maximize id => exact shift_onWindow fun w hw hid => hid ▸ shift_maximizeWindow hs hw
  | normalize id => exact shift_onWindow fun w hw hid => shift_normalizeWindow hw (.inl (hid ▸ rfl))
  | hide id => exact shift_hide id
  | reveal id => exact shift_onWindow fun w hw hid => shift_revealWindow hw (.inl (hid ▸ rfl))
  | stick id => exact shift_stick id (.inl rfl)
  | unstick id => exact shift_unstick id (.inl rfl)
  | toggleStick id => exact shift_toggleStick id
  | fit id h => exact shift_fit id h
  | placeUnder id anchor =>
    simp only [perform]
    cases h : d.placeUnder id anchor with
    | error e => exact .refl d _
    | ok d' => exact shift_placeUnder h
  | beginDrag id p => exact shift_beginDrag id p
  | beginResize id h p => exact shift_beginResize id h p
  | pointerMove p => exact shift_pointerMove p
  | pointerUp => exact shift_pointerUp d
  | pointerDown p =>
    obtain ⟨t, -, ht⟩ := Option.map_eq_some_iff.1 ha
    exact absurd ht (pressAction_ne t.1 p t.2)
  | doubleClick p =>
    obtain ⟨t, -, ht⟩ := Option.bind_eq_some_iff.1 ha
    exact absurd ht (doubleClickAction_ne t.1 p t.2)
  | setTitle id title => exact .still (unmoved_changeFrame id fun f => f.isLocked_setTitle title)
  | setError id message => exact .still (unmoved_changeFrame id fun f => f.isLocked_setError message)
  | setAddress id address => exact .still (unmoved_setAddress id address)
  | setContentText id name text => exact .still (unmoved_setContentText id name text)
  | embed id widget => exact .still (unmoved_embed id widget)
  | note data => exact same rfl rfl rfl

theorem perform_shift (hs : Sound d) (a : Action) : Shift d (d.directed a) (d.perform a).1 := by
  rw [perform_directed]
  cases h : d.directed a with
  | none => exact .refl d _
  | some b => exact shift_direct hs b (directed_directed h)

/-! ## Creations -/

theorem isLocked_newFrame {spec : WindowSpec} {content : Element} {f : Frame} (h : d.newFrame spec content = .ok f)
    (hc : d.chrome.attr Frame.lockAttr = none) : f.isLocked = d.gesture.isSome := by
  unfold newFrame at h
  split at h
  · cases h
  · rename_i g hg
    cases h
    have hl : ((g.allow spec.caps).setTitle (spec.title.getD spec.kind)).isLocked = false := by
      rw [Frame.isLocked_setTitle, Frame.isLocked_allow, Frame.isLocked_build hg, hc]
      rfl
    cases hd : d.gesture with
    | none => simpa using hl
    | some id => simp

theorem shift_add (hs : Sound d) (library : Library) (spec : WindowSpec) (container : String) {f : Frame}
    (hf : d.chrome.attr Frame.lockAttr = none → f.isLocked = d.gesture.isSome) :
    Shift d none (({ d with library } : Desktop).add spec container f).1 := by
  have hid : d.posture? ⟨d.issued + 1⟩ = none := by
    rw [← Option.isNone_iff_eq_none, ← Option.not_isSome, posture?_isSome, hs.isLive_new]
    rfl
  let w := newWindow { d with library } spec container f
  refine .add (s := w.posture) hid rfl (Rect.clamp_clamp _ _) hf (fun i => ?_) rfl ?_
  · exact posture?_append (d := d) (w := w) rfl hid i
  simp only [ground, add, Page.rects_attach]
  rfl

theorem shift_instantiate (hs : Sound d) (spec : WindowSpec) : Shift d none (d.instantiate spec).1 := by
  obtain ⟨library, e, h⟩ | ⟨library, content, container, f, -, hf, h⟩ := d.instantiate_cases spec
  · rw [h]
    exact .still ⟨fun _ => rfl, rfl, rfl⟩
  · rw [h]
    exact shift_add hs library spec container fun hc => isLocked_newFrame hf hc

theorem shift_discard (id : WindowId) : Shift d (some (.destroy id)) (d.discard id) := by
  unfold discard
  split
  · rename_i w hw
    obtain ⟨-, rfl⟩ := mem_of_window? hw
    exact shift_remove hw (.inl rfl)
  · exact .refl d _

theorem shift_complete (id : WindowId) (spec : WindowSpec) :
    Shift d (spec.under.map (.placeUnder id)) (d.complete id spec).1 := by
  refine complete_keeps (.refl d _) (fun anchor d₁ hu h => ?_) fun d₁ _ h => ?_
  · rw [hu]
    exact shift_placeUnder h
  · have hc : Unmoved d₁ (d₁.change id fun w => { w with constructed := true }) :=
      unmoved_change (fun _ => rfl) fun _ _ => rfl
    exact h.trans ⟨hc.posture, rfl, rfl⟩ rfl rfl

end FloatingPanels.Desktop

import FloatingPanels.Proofs.Desktop.Posture
/-!
# What operations leave alone

The `core` of a window is all of it but its height in the stack and its lock. Most
operations are `Local`: they keep the cores of all windows but one, and nobody claims an
address by them or loses one.
-/

namespace FloatingPanels

/-- A window without its height and its lock. -/
def Window.core (w : Window) : Window := { w with z := 0, frame := w.frame.lock false }

theorem Window.core_sink (z : Nat) (w : Window) : (w.sink z).core = w.core := by
  unfold sink
  split <;> rfl

theorem Window.core_lock (w : Window) (b : Bool) : { w with frame := w.frame.lock b }.core = w.core := by
  simp only [core, Frame.lock_lock]

namespace Desktop

/-! ## Cores and addresses -/

def core? (d : Desktop) (id : WindowId) : Option Window := (d.window? id).map Window.core

/-- The address that a live window claimed last, if it claimed any. -/
def own? (d : Desktop) (id : WindowId) : Option (Option String) := (d.window? id).map Window.address

theorem own?_eq (d : Desktop) (id : WindowId) : d.own? id = (d.core? id).map Window.address := by
  rw [core?, Option.map_map]
  rfl

theorem isLive_of_core? {d d' : Desktop} {id : WindowId} (h : d'.core? id = d.core? id) : d'.isLive id = d.isLive id := by
  have := congrArg Option.isSome h
  rwa [core?, core?, Option.isSome_map, Option.isSome_map] at this

/-- The windows that `p` leaves out keep their cores, and no address is claimed or given
up. -/
structure Local (d d' : Desktop) (p : WindowId → Prop) : Prop where
  spares : ∀ i, ¬ p i → d'.core? i = d.core? i
  own : ∀ i, d'.own? i = d.own? i
  addresses : d'.addresses = d.addresses

variable {d d' d₁ d₂ : Desktop} {p q : WindowId → Prop}

theorem Local.refl (d : Desktop) (p : WindowId → Prop) : Local d d p := ⟨fun _ _ => rfl, fun _ => rfl, rfl⟩

theorem Local.trans (h : Local d d₁ p) (h' : Local d₁ d₂ p) : Local d d₂ p :=
  ⟨fun i hi => (h'.spares i hi).trans (h.spares i hi), fun i => (h'.own i).trans (h.own i),
    h'.addresses.trans h.addresses⟩

theorem Local.mono (h : Local d d' p) (hpq : ∀ i, p i → q i) : Local d d' q :=
  ⟨fun i hi => h.spares i fun hp => hi (hpq i hp), h.own, h.addresses⟩

theorem local_map {f : Window → Window} (hw : d'.windows = d.windows.map f) (ha : d'.addresses = d.addresses)
    (hf : ∀ v, (f v).id = v.id ∧ (f v).address = v.address) (hc : ∀ v, ¬ p v.id → (f v).core = v.core) :
    Local d d' p := by
  have hwin := window?_map hw fun v => (hf v).1
  refine ⟨fun i hi => ?_, fun i => ?_, ha⟩
  · rw [core?, hwin, Option.map_map]
    exact Option.map_congr fun v hv => hc v ((mem_of_window? hv).2 ▸ hi)
  · rw [own?, hwin, Option.map_map]
    exact Option.map_congr fun v _ => (hf v).2

/-- The tray, the gesture and the last creation do not matter. -/
theorem Local.congr (h : Local d d₁ p) (hw : d'.windows = d₁.windows) (ha : d'.addresses = d₁.addresses) :
    Local d d' p := by
  have hwin : ∀ i, d'.window? i = d₁.window? i := fun i => by rw [window?, hw, window?]
  refine ⟨fun i hi => ?_, fun i => ?_, ha.trans h.addresses⟩
  · rw [core?, hwin]
    exact h.spares i hi
  · rw [own?, hwin]
    exact h.own i

/-- Nothing of the windows has changed. -/
theorem local_same (hw : d'.windows = d.windows) (ha : d'.addresses = d.addresses) : Local d d' p :=
  (Local.refl d p).congr hw ha

theorem local_change {id : WindowId} {f : Window → Window} (hf : ∀ v, (f v).id = v.id ∧ (f v).address = v.address) :
    Local d (d.change id f) (· = id) := by
  refine local_map rfl rfl (fun v => ?_) fun v hv => ?_
  · split
    · exact hf v
    · exact ⟨rfl, rfl⟩
  · rw [if_neg hv]

theorem local_raise (d : Desktop) (id : WindowId) : Local d (d.raise id).1 p := by
  cases hw : d.window? id with
  | none =>
    simp only [raise, hw]
    exact .refl d p
  | some w =>
    rw [raise_of_window? hw]
    split
    · exact .refl d p
    · refine local_map rfl rfl (fun v => ?_) fun v _ => ?_
      · split
        · exact ⟨rfl, rfl⟩
        · unfold Window.sink
          split <;> exact ⟨rfl, rfl⟩
      · split
        · rfl
        · exact Window.core_sink w.z v

theorem local_lockAll (d : Desktop) (b : Bool) : Local d (d.lockAll b) p :=
  local_map rfl rfl (fun _ => ⟨rfl, rfl⟩) fun v _ => Window.core_lock v b

/-! ## Changes of mode -/

theorem local_fill (d : Desktop) (w : Window) : Local d (d.fill w) (· = w.id) := by
  refine (local_change ?_).trans (local_raise _ w.id)
  exact fun _ => ⟨rfl, rfl⟩

theorem local_normalizeWindow (d : Desktop) (w : Window) : Local d (d.normalizeWindow w).1 (· = w.id) := by
  unfold normalizeWindow
  split
  · split
    · exact local_change fun _ => ⟨rfl, rfl⟩
    · exact .refl d _
  · exact .refl d _

theorem local_revealWindow (d : Desktop) (w : Window) : Local d (d.revealWindow w).1 (· = w.id) := by
  unfold revealWindow
  split
  · rename_i restore _
    split
    · have h : Local d (d.change w.id fun v => { v with mode := .ofRestore restore }) (· = w.id) :=
        local_change fun _ => ⟨rfl, rfl⟩
      exact (h.trans (local_raise _ w.id)).congr rfl rfl
    · exact .refl d _
  · exact .refl d _

theorem local_maximizeWindow (d : Desktop) (w : Window) : Local d (d.maximizeWindow w).1 (· = w.id) := by
  unfold maximizeWindow
  split
  · exact .refl d _
  · split
    · exact .refl d _
    · exact .refl d _
    · exact .refl d _
    · exact local_normalizeWindow d w
    · exact local_fill d w
    · split
      · exact local_revealWindow d w
      · exact local_fill d w
    · exact (local_revealWindow d w).trans (local_fill _ w)

/-! ## Outcomes -/

/-- What is known of every live window of a number is known of the outcome. -/
theorem local_onWindow {id : WindowId} {f : Window → Desktop × Bool}
    (h : ∀ w, d.window? id = some w → Local d (f w).1 p) : Local d (Answer.ofOutcome d (d.onWindow id f)).1 p := by
  unfold onWindow
  split
  · exact .refl d p
  · rename_i w hw
    exact h w hw

theorem local_hide (d : Desktop) (id : WindowId) : Local d (Answer.ofOutcome d (d.hide id)).1 (· = id) := by
  refine local_onWindow fun w _ => ?_
  split
  · rename_i restore _
    split
    · have h : Local d (d.change id fun v => { v with mode := .hidden restore }) (· = id) :=
        local_change fun _ => ⟨rfl, rfl⟩
      exact h.congr rfl rfl
    · exact .refl d _
  · exact .refl d _

theorem local_stick (d : Desktop) (id : WindowId) : Local d (Answer.ofOutcome d (d.stick id)).1 (· = id) := by
  refine local_onWindow fun w _ => ?_
  split
  · split
    · exact local_change fun _ => ⟨rfl, rfl⟩
    · exact .refl d _
  · exact .refl d _

theorem local_unstick (d : Desktop) (id : WindowId) : Local d (Answer.ofOutcome d (d.unstick id)).1 (· = id) := by
  refine local_onWindow fun w _ => ?_
  split
  · exact local_change fun _ => ⟨rfl, rfl⟩
  · exact .refl d _

theorem local_toggleStick (d : Desktop) (id : WindowId) :
    Local d (Answer.ofOutcome d (d.toggleStick id)).1 (· = id) := by
  unfold toggleStick
  split
  · exact .refl d _
  · split
    · exact local_unstick d id
    · exact local_stick d id

theorem local_fit (d : Desktop) (id : WindowId) (h : Handle) :
    Local d (Answer.ofOutcome d (d.fit id h)).1 (· = id) := by
  refine local_onWindow fun w _ => ?_
  have resize : ∀ r : Rect, Local d
      (if r = w.rect then (d, false) else (d.change id fun v => { v with rect := r }, true)).1 (· = id) := by
    intro r
    split
    · exact .refl d _
    · exact local_change fun _ => ⟨rfl, rfl⟩
  split
  · exact .refl d _
  · exact resize _

theorem local_placeUnder {id : WindowId} {anchor : String} (h : d.placeUnder id anchor = .ok d') :
    Local d d' (· = id) := by
  unfold placeUnder at h
  split at h
  · cases h
  · split at h
    · cases h
      exact local_change fun _ => ⟨rfl, rfl⟩
    · cases h

/-! ## The pointer -/

theorem local_start (d : Desktop) (id : WindowId) (mode : Mode) : Local d (d.start id mode) (· = id) := by
  have h : Local d (d.change id fun v => { v with mode }) (· = id) := local_change fun _ => ⟨rfl, rfl⟩
  refine Local.trans ?_ (local_lockAll _ true)
  exact (h.trans (local_raise _ id)).congr rfl rfl

theorem local_beginDrag (d : Desktop) (id : WindowId) (x : Point) :
    Local d (Answer.ofOutcome d (d.beginDrag id x)).1 (· = id) := by
  refine local_onWindow fun w _ => ?_
  split
  · exact local_start d id _
  · exact .refl d _

theorem local_beginResize (d : Desktop) (id : WindowId) (h : Handle) (x : Point) :
    Local d (Answer.ofOutcome d (d.beginResize id h x)).1 (· = id) := by
  refine local_onWindow fun w _ => ?_
  split
  · exact local_start d id _
  · exact .refl d _

theorem local_pointerMove (d : Desktop) (x : Point) : Local d (d.pointerMove x).1 (d.gesture = some ·) := by
  unfold pointerMove
  split
  · exact .refl d _
  · rename_i id hg
    have at_gesture : ∀ {d'}, Local d d' (· = id) → Local d d' (d.gesture = some ·) :=
      fun h => h.mono fun i hi => by rw [hg, hi]
    split
    · exact .refl d _
    · split
      · exact at_gesture (local_change fun _ => ⟨rfl, rfl⟩)
      · exact at_gesture (local_change fun _ => ⟨rfl, rfl⟩)
      · exact .refl d _

theorem local_pointerUp (d : Desktop) : Local d d.pointerUp.1 (d.gesture = some ·) := by
  unfold pointerUp
  split
  · exact .refl d _
  · rename_i id hg
    have h : Local d (d.change id fun w => { w with mode := Mode.released w.mode }) (· = id) :=
      local_change fun _ => ⟨rfl, rfl⟩
    refine Local.trans ?_ (local_lockAll _ false)
    exact (h.mono fun i hi => by rw [hg, hi]).congr rfl rfl

/-! ## Frames and widgets -/

theorem local_changeFrame (d : Desktop) (id : WindowId) (f : Frame → Frame) :
    Local d (d.changeFrame id f).1 (· = id) := by
  unfold changeFrame
  split
  · exact local_change fun _ => ⟨rfl, rfl⟩
  · exact .refl d _

theorem local_setContentText (d : Desktop) (id : WindowId) (name text : String) :
    Local d (d.setContentText id name text).1 (· = id) := by
  unfold setContentText
  split
  · exact local_change fun _ => ⟨rfl, rfl⟩
  · exact .refl d _

theorem local_embed (d : Desktop) (id : WindowId) (widget : String) : Local d (d.embed id widget).1 (· = id) := by
  unfold embed
  split
  · exact local_change fun _ => ⟨rfl, rfl⟩
  · exact .refl d _

theorem local_complete (d : Desktop) (id : WindowId) (spec : WindowSpec) : Local d (d.complete id spec).1 (· = id) := by
  refine complete_keeps (.refl d _) (fun _ _ _ h => local_placeUnder h) fun d₁ _ h => ?_
  have hc : Local d₁ (d₁.change id fun w => { w with constructed := true }) (· = id) :=
    local_change fun _ => ⟨rfl, rfl⟩
  exact (h.trans hc).congr rfl rfl

end Desktop

end FloatingPanels

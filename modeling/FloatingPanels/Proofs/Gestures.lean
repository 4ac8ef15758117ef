import FloatingPanels.Proofs.Deeds
/-!
# Gestures

A gesture is held in three places: the desktop names its window, the window is in the
mode of a drag or a resize, and all frames are locked. `run_gestures` says that the
three agree at every moment of every run, and that a gesture lasts until the pointer is
released or its window is gone.
-/

namespace FloatingPanels

namespace Desktop

variable {d d' : Desktop} {a : Option Action} {w : Window} {mode : Mode} {rect : Rect}

/-! ## The mode of the window -/

/-- The live windows in the mode of a gesture are those of the gesture that is going on. -/
def Coherent (d : Desktop) : Prop := ∀ i s, d.posture? i = some s → (s.mode.inGesture ↔ d.gesture = some i)

theorem ofRestore_inGesture (restore : Option Rect) : (Mode.ofRestore restore).inGesture = false := by
  cases restore <;> rfl

theorem atRest_inGesture {mode : Mode} {restore : Option Rect} (h : mode.atRest = some restore) :
    mode.inGesture = false := by
  cases mode <;> first | rfl | cases h

theorem released_inGesture (mode : Mode) : (Mode.released mode).inGesture = false := by
  cases mode with
  | dragging g => exact ofRestore_inGesture g.restore
  | _ => rfl

theorem Turn.inGesture {a : Action} (h : Turn d w a mode rect) : mode.inGesture = w.mode.inGesture := by
  cases h with
  | fill hm _ => rcases hm with hm | hm <;> rw [hm] <;> rfl
  | normalize _ hm _ => rw [hm]; rfl
  | hide hm _ => rw [atRest_inGesture hm]; rfl
  | reveal _ hm _ => rw [ofRestore_inGesture, hm]; rfl
  | stick _ hm _ => rw [atRest_inGesture hm]; rfl
  | unstick _ hm => rw [ofRestore_inGesture, hm]; rfl
  | fit _ _ => rfl
  | place _ => rfl
  | drag _ hm => rw [hm]; rfl
  | resize _ _ => rfl

theorem Grip.inGesture {a : Action} (h : Grip w a mode) : mode.inGesture = true := by
  cases h <;> rfl

theorem Shift.coherent (h : Shift d a d') (hs : Sound d) (hc : d.Coherent) : d'.Coherent := by
  intro i s hi
  cases h with
  | still h =>
    rw [h.posture] at hi
    rw [h.gesture]
    exact hc i s hi
  | @move w _ _ _ hw _ ht h =>
    rw [h.posture] at hi
    rw [h.gesture]
    split at hi
    · rename_i hid
      cases hi
      rw [hid, ht.inGesture]
      exact hc w.id w.posture (posture?_of_window? hw)
    · exact hc i s hi
  | @start w _ _ hw _ hg ht hp hg' _ =>
    rw [hp] at hi
    rw [hg']
    obtain ⟨t, hit, rfl⟩ := Option.map_eq_some_iff.1 hi
    by_cases hid : i = w.id
    · rw [if_pos hid] at hit
      cases hit
      simp [hid, ht.inGesture]
    · -- No gesture was going on before, so no other window is in one.
      rw [if_neg hid] at hit
      have := hc i t hit
      rw [hg] at this
      simpa [Ne.symm hid] using this
  | @release id _ hg hp hg' _ =>
    rw [hp] at hi
    obtain ⟨t, hit, rfl⟩ := Option.map_eq_some_iff.1 hi
    have := hc i t hit
    rw [hg', iff_false_right (Option.some_ne_none i).symm]
    split
    · rw [released_inGesture]
      exact Bool.false_ne_true
    · rename_i hne
      rw [this, hg]
      exact fun h => hne (Option.some.inj h).symm
  | viewport _ hp hg _ _ =>
    rw [hp] at hi
    rw [hg]
    obtain ⟨w, hw, rfl⟩ := Option.map_eq_some_iff.1 hi
    exact hc i w.posture (posture?_of_window? hw)
  | @add id s' hid hm _ _ hp hg _ =>
    rw [hp] at hi
    rw [hg]
    split at hi
    · rename_i heq
      cases hi
      -- The new window is not that of the gesture, which is live.
      have hdead : d.gesture ≠ some i := by
        intro h
        have hl := hs.gesture i h
        rw [heq, isLive, Option.isSome_iff_exists] at hl
        obtain ⟨w, hw⟩ := hl
        rw [posture?_of_window? hw] at hid
        cases hid
      rw [hm]
      exact iff_of_false Bool.false_ne_true hdead
    · exact hc i s hi
  | @remove w hw _ hp hg _ =>
    rw [hp] at hi
    rw [hg]
    split at hi
    · cases hi
    · rename_i hne
      split at hi
      · rename_i hgw
        obtain ⟨t, hit, rfl⟩ := Option.map_eq_some_iff.1 hi
        have := hc i t hit
        rw [hgw] at this
        simpa [hgw, Ne.symm hne] using this
      · rename_i hgw
        rw [if_neg hgw]
        exact hc i s hi

/-! ## The lock -/

/-- The frames of all live windows are locked while a gesture is going on, and no frame
is at other times. -/
def LockedAlike (d : Desktop) : Prop := ∀ i s, d.posture? i = some s → s.locked = d.gesture.isSome

theorem Shift.lockedAlike (h : Shift d a d') (hc : d.chrome.attr Frame.lockAttr = none) (hl : d.LockedAlike) :
    d'.LockedAlike := by
  intro i s hi
  cases h with
  | still h =>
    rw [h.posture] at hi
    rw [h.gesture]
    exact hl i s hi
  | @move w _ _ _ hw _ _ h =>
    rw [h.posture] at hi
    rw [h.gesture]
    split at hi
    · cases hi
      exact hl w.id w.posture (posture?_of_window? hw)
    · exact hl i s hi
  | start _ _ _ _ hp hg' _ =>
    rw [hp] at hi
    obtain ⟨t, -, rfl⟩ := Option.map_eq_some_iff.1 hi
    rw [hg']
    rfl
  | release _ _ hp hg' _ =>
    rw [hp] at hi
    obtain ⟨t, -, rfl⟩ := Option.map_eq_some_iff.1 hi
    rw [hg']
    rfl
  | viewport _ hp hg _ _ =>
    rw [hp] at hi
    rw [hg]
    obtain ⟨w, hw, rfl⟩ := Option.map_eq_some_iff.1 hi
    exact hl i w.posture (posture?_of_window? hw)
  | add _ _ _ hlock hp hg _ =>
    rw [hp] at hi
    rw [hg]
    split at hi
    · cases hi
      exact hlock hc
    · exact hl i s hi
  | remove _ _ hp hg _ =>
    rw [hp] at hi
    rw [hg]
    split at hi
    · cases hi
    · split at hi
      · rename_i hgw
        obtain ⟨t, -, rfl⟩ := Option.map_eq_some_iff.1 hi
        rw [if_pos hgw]
        rfl
      · rename_i hgw
        rw [if_neg hgw]
        exact hl i s hi

/-! ## How long a gesture lasts -/

theorem Shift.gesture_stays (h : Shift d a d') {id : WindowId} (hg : d.gesture = some id) (ha : a ≠ some .pointerUp)
    (hl : d'.isLive id) : d'.gesture = some id := by
  cases h with
  | still h => exact h.gesture.trans hg
  | move _ _ _ h => exact h.gesture.trans hg
  | start _ _ hn _ _ _ _ =>
    rw [hn] at hg
    cases hg
  | release hup _ _ _ _ => exact absurd hup ha
  | viewport _ _ h _ _ => exact h.trans hg
  | add _ _ _ _ _ h _ => exact h.trans hg
  | remove _ _ hp h _ =>
    rw [h]
    split
    · -- The window that is removed would be that of the gesture.
      rename_i hgw
      obtain rfl := Option.some.inj (hg.symm.trans hgw)
      rw [← posture?_isSome, hp, if_pos rfl] at hl
      cases hl
    · exact hg

end Desktop

variable {d₀ : Desktop} {m : Machine} {ms : List Machine}

theorem run_coherent (h₀ : d₀.IsNew) (h : Run d₀ (m :: ms)) : m.desktop.Coherent := by
  refine run_keeps (Q := fun _ => True) h₀ ?_ (fun hs _ hd hc => hd.coherent hs hc) h fun _ _ => trivial
  intro i s hi
  rw [Desktop.posture?, Desktop.window?, h₀.windows] at hi
  cases hi

theorem run_lockedAlike (h₀ : d₀.IsNew) (h : Run d₀ (m :: ms))
    (hc : ∀ n ∈ ms, n.desktop.chrome.attr Frame.lockAttr = none) : m.desktop.LockedAlike := by
  refine run_keeps (Q := fun n => n.desktop.chrome.attr Frame.lockAttr = none) h₀ ?_
    (fun _ hc hd hl => hd.lockedAlike hc hl) h hc
  intro i s hi
  rw [Desktop.posture?, Desktop.window?, h₀.windows] at hi
  cases hi

/-- What has to agree about gestures at a moment `m` after the moments `ms`. -/
structure Gestures (d₀ : Desktop) (m : Machine) (ms : List Machine) : Prop where
  active : ∀ id, m.desktop.gesture = some id ↔ ∃ w, m.desktop.window? id = some w ∧ w.mode.inGesture
  locked : ∀ w ∈ m.desktop.windows, w.frame.isLocked = m.desktop.gesture.isSome
  /-- A gesture is going on at every later moment until which its window has been live
  and the pointer was not released. -/
  stays : ∀ id, m.desktop.gesture = some id → ∀ m' later, Run d₀ (m' :: (later ++ m :: ms)) →
    (∀ n ∈ later ++ [m], n.deed? ≠ some .pointerUp) → (∀ n ∈ m' :: later, n.desktop.isLive id) →
    m'.desktop.gesture = some id

/-- Where no chrome brings a lock of its own, the gesture, the mode of its window and the
locks of all frames agree at every moment. -/
theorem run_gestures (h₀ : d₀.IsNew) (h : Run d₀ (m :: ms))
    (hc : ∀ n ∈ ms, n.desktop.chrome.attr Frame.lockAttr = none) : Gestures d₀ m ms := by
  have hs := run_sound h₀ h
  have hco := run_coherent h₀ h
  refine ⟨fun id => ⟨fun hg => ?_, ?_⟩, fun w hw => ?_, fun id hg m' later h' hup hl => ?_⟩
  · obtain ⟨w, hw⟩ := Desktop.exists_window (hs.gesture id hg)
    exact ⟨w, hw, (hco id w.posture (Desktop.posture?_of_window? hw)).2 hg⟩
  · rintro ⟨w, hw, hm⟩
    exact (hco id w.posture (Desktop.posture?_of_window? hw)).1 hm
  · exact run_lockedAlike h₀ h hc w.id w.posture (Desktop.posture?_of_window? (hs.window?_of_mem hw))
  · exact h'.since (P := fun n => n.desktop.gesture = some id) (Q := fun n => n.deed? ≠ some .pointerUp)
      (R := fun n => n.desktop.isLive id) (fun n n' ns h hq hr hg => (run_shift h₀ h).gesture_stays hg hq hr) hg hup hl

/-- A host that creates two windows while a third is dragged, and hides one of them. -/
def createWhileDragging : Program :=
  .create [.passive { kind := "note" }] fun _ => .then_ (.beginDrag ⟨1⟩ ⟨5, 5⟩)
    (.create [.passive { kind := "note" }, .passive { kind := "note" }] fun _ => .then_ (.hide ⟨2⟩) .accept)

theorem run_gestures_createWhileDragging :
    Desktop.plain.IsNew ∧
      (∀ n ∈ Machine.moments (.start { desktop := .plain } createWhileDragging) 24,
        n.desktop.chrome.attr Frame.lockAttr = none) ∧
      Gestures .plain (Machine.step^[25] (.start { desktop := .plain } createWhileDragging))
        (Machine.moments (.start { desktop := .plain } createWhileDragging) 24) ∧
      (Machine.step^[25] (.start { desktop := .plain } createWhileDragging)).desktop.gesture = some ⟨1⟩ ∧
      (Machine.step^[25] (.start { desktop := .plain } createWhileDragging)).desktop.windows.map
        (fun w => (w.mode.isHidden, w.frame.isLocked)) = [(false, true), (true, true), (false, true)] :=
  have hc : ∀ n ∈ Machine.moments (.start { desktop := .plain } createWhileDragging) 24,
      n.desktop.chrome.attr Frame.lockAttr = none := by decide +kernel
  ⟨Desktop.isNew_plain, hc, run_gestures Desktop.isNew_plain (Run.moments createWhileDragging 25) hc,
    by decide +kernel, by decide +kernel⟩

end FloatingPanels

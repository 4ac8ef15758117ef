import FloatingPanels.Proofs.Desktop.Basic
/-!
# Effects of changes of mode

Windows go into the tray and come out of it, and are raised when they are shown or
enter the maximized mode. All other changes of mode leave the books alone.
-/

namespace FloatingPanels.Desktop

variable {d : Desktop}

/-! ## Modes -/

/-- What is at rest is not hidden. -/
theorem atRest_not_hidden {m : Mode} {restore : Option Rect} (h : m.atRest = some restore) : m.isHidden = false := by
  cases m <;> first | rfl | cases h

theorem ofRestore_not_hidden (restore : Option Rect) : (Mode.ofRestore restore).isHidden = false := by
  cases restore <;> rfl

/-- A window that is not hidden fills its container. -/
theorem alike_fill (hs : Sound d) {v w : Window} (hv : d.window? w.id = some v) (hn : v.mode.isHidden = false) :
    Alike d (d.fill w) (some w.id) := by
  have h : Alike d (d.change w.id fun v => { v with rect := d.fillRect w, mode := .maximized w.rect }) none := by
    refine alike_mode hs hv (fun _ => ⟨rfl, rfl⟩) ?_
    simp only [Window.entry, hn]
    rfl
  exact h.trans' (alike_raise (by rw [h.isLive]; exact isLive_of_window? hv))

theorem alike_normalizeWindow (hs : Sound d) {w : Window} (hw : d.window? w.id = some w) :
    Alike d (d.normalizeWindow w).1 none := by
  unfold normalizeWindow
  split
  · rename_i saved hm
    split
    · refine alike_mode hs hw (fun _ => ⟨rfl, rfl⟩) ?_
      simp only [Window.entry, hm]
      rfl
    · exact .refl d
  · exact .refl d

/-- Raising a window and taking one out of the tray can change places. -/
theorem raise_tray (d : Desktop) (t : Tray) (id : WindowId) :
    ({ d with tray := t }.raise id).1 = { (d.raise id).1 with tray := t } := by
  simp only [raise, window?]
  split
  · rfl
  · split <;> rfl

/-- A hidden window is no longer hidden before it is raised. -/
theorem revealWindow_of_hidden {w : Window} (hw : d.window? w.id = some w) {restore : Option Rect}
    (hm : w.mode = .hidden restore) (hc : w.caps.hide) :
    (d.revealWindow w).2 = true ∧ ∃ d₁, Edited d d₁ w.id (fun e => { e with hidden := false }) ∧
      d₁.addresses = d.addresses ∧ d₁.tray = d.tray.restore w.id ∧ Alike d₁ (d.revealWindow w).1 (some w.id) := by
  have he : Edited d { (d.change w.id fun v => { v with mode := .ofRestore restore }) with
      tray := d.tray.restore w.id } w.id fun e => { e with hidden := false } := by
    refine edited_change ?_ (fun v => ?_) d.addresses _
    · exact fun _ => ⟨rfl, rfl⟩
    · simp only [Window.entry, ofRestore_not_hidden]
  -- The tray is changed after the raise, but it may as well be changed before.
  have hr := alike_raise ((he.isLive (fun _ => rfl) w.id).trans (isLive_of_window? hw))
  rw [raise_tray] at hr
  simp only [revealWindow, hm, hc, if_true]
  exact ⟨trivial, _, he, rfl, rfl, hr⟩

theorem effect_revealWindow {w : Window} (hw : d.window? w.id = some w) :
    Effect d (d.revealWindow w).1 (if (d.revealWindow w).2 then some w.id else none) none := by
  by_cases h : ∃ restore, w.mode = .hidden restore ∧ w.caps.hide
  · obtain ⟨restore, hm, hc⟩ := h
    obtain ⟨hb, d₁, he, ha, ht, hr⟩ := revealWindow_of_hidden hw hm hc
    rw [hb, if_pos rfl]
    exact .reveal d₁ hr (mem_of_window? hw).1 he ha ht
  · -- Not hidden, or not allowed to be: nothing happens.
    have hd : d.revealWindow w = (d, false) := by
      unfold revealWindow
      split
      · rename_i restore hm
        rw [if_neg fun hc => h ⟨restore, hm, hc⟩]
      · rfl
    rw [hd]
    exact effect_skip _

theorem does_reveal (id : WindowId) : Does d (d.reveal id) (some id) := by
  refine does_onWindow fun w hw => ?_
  obtain ⟨-, rfl⟩ := mem_of_window? hw
  exact effect_revealWindow hw

theorem does_normalize (hs : Sound d) (id : WindowId) : Does d (d.normalize id) none := by
  refine does_onWindow_none fun w hw => ?_
  obtain ⟨-, rfl⟩ := mem_of_window? hw
  exact .alike (alike_normalizeWindow hs hw)

theorem does_hide (id : WindowId) : Does d (d.hide id) none := by
  refine does_onWindow_none fun w hw => ?_
  obtain ⟨hm, rfl⟩ := mem_of_window? hw
  split
  · rename_i restore hr
    split
    · rename_i hc
      refine .hide hm (atRest_not_hidden hr) hc w.frame.title (edited_change ?_ ?_ d.addresses _) rfl rfl
      · exact fun _ => ⟨rfl, rfl⟩
      · exact fun _ => rfl
    · exact effect_refl d
  · exact effect_refl d

theorem does_stick (hs : Sound d) (id : WindowId) : Does d (d.stick id) none := by
  refine does_onWindow_none fun w hw => ?_
  split
  · rename_i restore hr
    split
    · refine .alike (alike_mode hs hw (fun _ => ⟨rfl, rfl⟩) ?_)
      simp only [Window.entry, atRest_not_hidden hr]
      rfl
    · exact effect_refl d
  · exact effect_refl d

theorem does_unstick (hs : Sound d) (id : WindowId) : Does d (d.unstick id) none := by
  refine does_onWindow_none fun w hw => ?_
  split
  · rename_i restore hm
    refine .alike (alike_mode hs hw (fun _ => ⟨rfl, rfl⟩) ?_)
    simp only [Window.entry, hm, ofRestore_not_hidden]
    rfl
  · exact effect_refl d

theorem does_toggleStick (hs : Sound d) (id : WindowId) : Does d (d.toggleStick id) none := by
  unfold toggleStick
  split
  · intro d' b ho
    cases ho
  · split
    · exact does_unstick hs id
    · exact does_stick hs id

theorem does_fit (id : WindowId) (h : Handle) : Does d (d.fit id h) none := by
  refine does_onWindow_none fun w _ => ?_
  split
  · exact effect_refl d
  · have resize : ∀ r : Rect, Effect d
        (if r = w.rect then (d, false) else (d.change id fun v => { v with rect := r }, true)).1 none none := by
      intro r
      split
      · exact effect_refl d
      · exact .alike (alike_change (fun _ => ⟨rfl, rfl⟩) fun _ _ _ => rfl)
    exact resize _

/-! ## The maximized mode -/

/-- Whether a window is live and in the maximized mode. -/
def fills (d : Desktop) (id : WindowId) : Bool :=
  (d.window? id).any fun w =>
    match w.mode with
    | .maximized _ => true
    | _ => false

theorem window?_map {d' : Desktop} {f : Window → Window} (hw : d'.windows = d.windows.map f)
    (hf : ∀ v, (f v).id = v.id) (id : WindowId) : d'.window? id = (d.window? id).map f := by
  rw [window?, hw, List.find?_map]
  simp only [Function.comp_def, hf]
  rfl

theorem window?_change {id : WindowId} {f : Window → Window} (hf : ∀ v, (f v).id = v.id) :
    (d.change id f).window? id = (d.window? id).map f := by
  have hg : ∀ v, (if v.id = id then f v else v).id = v.id := by
    intro v
    split
    · exact hf v
    · rfl
  rw [@window?_map d _ _ rfl hg]
  refine Option.map_congr fun v hv => ?_
  rw [if_pos (mem_of_window? hv).2]

/-- Raising a window changes the mode of none. -/
theorem fills_raise (d : Desktop) (i id : WindowId) : (d.raise i).1.fills id = d.fills id := by
  cases hw : d.window? i with
  | none => simp only [raise, hw]
  | some w =>
    rw [raise_of_window? hw]
    split
    · rfl
    · have hf : ∀ v : Window, (if v.id = i then { v with z := d.windows.length } else v.sink w.z).id = v.id ∧
          (if v.id = i then { v with z := d.windows.length } else v.sink w.z).mode = v.mode := by
        intro v
        split
        · exact ⟨rfl, rfl⟩
        · unfold Window.sink
          split <;> exact ⟨rfl, rfl⟩
      unfold fills
      rw [@window?_map d { d with windows := d.windows.map fun v =>
        if v.id = i then { v with z := d.windows.length } else v.sink w.z } _ rfl fun v => (hf v).1]
      simp only [Option.any_map, hf]

theorem fills_change {id : WindowId} {w : Window} (hw : d.window? id = some w) {f : Window → Window}
    (hf : ∀ v, (f v).id = v.id) :
    (d.change id f).fills id = match (f w).mode with
      | .maximized _ => true
      | _ => false := by
  rw [fills, window?_change hf, hw]
  rfl

theorem fills_fill {v w : Window} (hv : d.window? w.id = some v) : (d.fill w).fills w.id = true := by
  rw [fill, fills_raise, fills_change hv]
  exact fun _ => rfl

theorem fills_revealWindow {w : Window} (hw : d.window? w.id = some w) {saved : Rect}
    (hm : w.mode = .hidden (some saved)) (hc : w.caps.hide) : (d.revealWindow w).1.fills w.id = true := by
  simp only [revealWindow, hm, hc, if_true]
  have h := fills_raise (d.change w.id fun v => { v with mode := .ofRestore (some saved) }) w.id w.id
  rw [fills_change hw] at h
  · exact h
  · exact fun _ => rfl

/-- A hidden window is shown and then fills its container; it is raised once. -/
theorem effect_reveal_fill (hs : Sound d) {w : Window} (hw : d.window? w.id = some w) {restore : Option Rect}
    (hm : w.mode = .hidden restore) (hc : w.caps.hide) :
    Effect d ((d.revealWindow w).1.fill w) (some w.id) none ∧ ((d.revealWindow w).1.fill w).fills w.id = true := by
  obtain ⟨-, d₁, he, ha, ht, hr⟩ := revealWindow_of_hidden hw hm hc
  have hs' : Sound (d.revealWindow w).1 := (Effect.reveal d₁ hr (mem_of_window? hw).1 he ha ht).sound hs
  obtain ⟨v, hv⟩ : ∃ v, (d.revealWindow w).1.window? w.id = some v :=
    exists_window (by rw [hr.isLive, he.isLive fun _ => rfl]; exact isLive_of_window? hw)
  -- `fill` is handed the window as it was while hidden; on the desktop it is shown.
  have hn : v.mode.isHidden = false := by
    have hmem : v.entry ∈ d₁.entries := hr.entries ▸ List.mem_map_of_mem (mem_of_window? hv).1
    obtain ⟨e, _, hev⟩ := he.mem.1 hmem
    have hid : e.id = w.id := by
      have := congrArg Entry.id hev
      rw [apply_ite Entry.id, ite_self] at this
      exact this.trans (mem_of_window? hv).2
    rw [if_pos hid] at hev
    exact (congrArg Entry.hidden hev).symm
  exact ⟨.reveal d₁ (hr.comp (alike_fill hs' hv hn) fun s => Stack.raise_raise s w.id) (mem_of_window? hw).1 he ha ht,
    fills_fill hv⟩

/-- The window is raised if it ends in the maximized mode. -/
theorem effect_maximizeWindow (hs : Sound d) {w : Window} (hw : d.window? w.id = some w) :
    Effect d (d.maximizeWindow w).1
      (if (d.maximizeWindow w).2 && (d.maximizeWindow w).1.fills w.id then some w.id else none) none := by
  unfold maximizeWindow
  split
  · exact effect_refl d
  · rename_i hmax
    have hmax : w.caps.maximize := by simpa using hmax
    cases hm : w.mode with
    | stuck restore => exact effect_refl d
    | dragging g => exact effect_refl d
    | resizing g => exact effect_refl d
    | maximized saved =>
      have hf : (d.normalizeWindow w).1.fills w.id = false := by
        simp only [normalizeWindow, hm, hmax, if_true]
        rw [fills_change hw]
        exact fun _ => rfl
      simp only [hf, Bool.and_false]
      exact .alike (alike_normalizeWindow hs hw)
    | normal =>
      simp only [fills_fill hw, Bool.and_true, if_true]
      exact .alike (alike_fill hs hw (by rw [hm]; rfl))
    | hidden restore =>
      -- Without the capability the window would not be hidden.
      have hc : w.caps.hide :=
        hs.hides w.entry (List.mem_map_of_mem (mem_of_window? hw).1) (by simp [Window.entry, hm, Mode.isHidden])
      cases restore with
      | none =>
        obtain ⟨he, hf⟩ := effect_reveal_fill hs hw hm hc
        simp only [hf, Bool.and_true, if_true]
        exact he
      | some saved =>
        have he := effect_revealWindow hw
        simp only [hc, if_true, fills_revealWindow hw hm hc, Bool.and_true]
        exact he

end FloatingPanels.Desktop

import FloatingPanels.Proofs.App.Presses
/-!
# Keys for one window

Two keys act on a window without the pointer: one closes it, the other sticks it or lets it loose.
The window is the topmost, and hiding a window does not lower it; so it is the front window, which is the
visible window that no other visible one is above, only as long as no hidden window is above that.
-/

namespace FloatingPanels

/-- The mode of a window when its stick was toggled. One that is hidden or held by the pointer keeps its mode. -/
def Window.stickToggled (w : Window) : Mode :=
  match w.mode with
  | .stuck restore => .ofRestore restore
  | .normal => if w.caps.stick then .stuck none else .normal
  | .maximized saved => if w.caps.stick then .stuck (some saved) else .maximized saved
  | mode => mode

namespace Desktop

/-- The window is visible, and no visible one is higher. -/
structure Front (d : Desktop) (w : Window) : Prop where
  live : w ∈ d.windows
  visible : w.mode.isHidden = false
  highest : ∀ v ∈ d.windows, v.mode.isHidden = false → v.z ≤ w.z

/-- No window is higher, hidden or not. -/
structure Top (d : Desktop) (w : Window) : Prop where
  live : w ∈ d.windows
  highest : ∀ v ∈ d.windows, v.z ≤ w.z

variable {d : Desktop} {s : Stack} {w : Window}

/-! ## The topmost window -/

/-- No two windows have the same height. -/
theorem StackedAs.eq_of_z (h : d.StackedAs s) (hn : d.ids.Nodup) {v : Window} (hv : v ∈ d.windows) (hw : w ∈ d.windows)
    (hz : v.z = w.z) : v = w := by
  rw [h.height v hv, h.height w hw, Nat.add_right_cancel_iff] at hz
  exact List.inj_on_of_nodup_map hn hv hw ((List.idxOf_inj (h.mem_of_window hv)).1 hz)

/-- The last window of the stack is the highest. -/
theorem StackedAs.exists_top (h : d.StackedAs s) (hd : d.windows ≠ []) :
    ∃ w, d.Top w ∧ d.stack.getLast? = some w.id := by
  obtain ⟨v, hv⟩ := List.exists_mem_of_ne_nil _ hd
  have hne : d.stacked ≠ [] := List.ne_nil_of_mem (mem_stacked.2 hv)
  obtain ⟨lower, w, hw⟩ := (List.eq_nil_or_concat' d.stacked).resolve_left hne
  have hsorted := h.sorted
  rw [hw] at hsorted
  refine ⟨w, ⟨mem_stacked.1 (by simp [hw]), fun u hu => ?_⟩, by simp [Desktop.stack, hw]⟩
  rw [← mem_stacked, hw, List.mem_append, List.mem_singleton] at hu
  rcases hu with hu | rfl
  · exact Nat.le_of_lt ((List.pairwise_append.1 hsorted).2.2 u hu w List.mem_cons_self)
  · exact Nat.le_refl _

/-- The front window can be found by its number. -/
theorem exists_front {id : WindowId} (h : (d.window? id).any fun w =>
    !w.mode.isHidden && d.windows.all fun v => v.mode.isHidden || v.z ≤ w.z) : ∃ w, d.Front w ∧ w.id = id := by
  obtain ⟨w, hw, hfront⟩ := (Option.any_eq_true _ _).1 h
  simp only [Bool.and_eq_true, Bool.not_eq_true', List.all_eq_true, Bool.or_eq_true, decide_eq_true_eq] at hfront
  refine ⟨w, ⟨(mem_of_window? hw).1, hfront.1, fun v hv hvisible => ?_⟩, (mem_of_window? hw).2⟩
  exact (hfront.2 v hv).resolve_left (by simp [hvisible])

/-! ## Closing and sticking -/

theorem perform_close (hw : d.window? w.id = some w) :
    (d.perform (.close w.id)).1 = if w.caps.close then d.remove w else d := by
  simp only [perform, close, onWindow, hw]
  split <;> rfl

/-- The mode of a window is all that its stick changes. -/
theorem perform_toggleStick (hw : d.window? w.id = some w) :
    (d.perform (.toggleStick w.id)).1 = d ∧ w.stickToggled = w.mode ∨
      (d.perform (.toggleStick w.id)).1 = d.change w.id fun v => { v with mode := w.stickToggled } := by
  simp only [perform, toggleStick, stick, unstick, onWindow, hw, Window.stickToggled]
  cases hm : w.mode with
  | stuck restore => exact .inr rfl
  | normal =>
    cases hc : w.caps.stick with
    | true => exact .inr rfl
    | false => exact .inl ⟨rfl, rfl⟩
  | maximized saved =>
    cases hc : w.caps.stick with
    | true => exact .inr rfl
    | false => exact .inl ⟨rfl, rfl⟩
  | _ => exact .inl ⟨rfl, rfl⟩

end Desktop

namespace App

variable {a : App} {w : Window}

/-- The keys act on this window, and on no other. -/
structure KeysAct (a : App) (w : Window) : Prop where
  /-- It is gone, if it can be closed. -/
  close : (a.press (.char 'x')).1.desktop.stack =
    if w.caps.close then Stack.without a.desktop.stack w.id else a.desktop.stack
  stick : (a.press (.char 's')).1.desktop.core? w.id = some { w.core with mode := w.stickToggled }
  stack : (a.press (.char 's')).1.desktop.stack = a.desktop.stack
  others : ∀ i, i ≠ w.id → (a.press (.char 'x')).1.desktop.core? i = a.desktop.core? i ∧
    (a.press (.char 's')).1.desktop.core? i = a.desktop.core? i

theorem press_topmost {id : WindowId} (h : a.topmost = some id) :
    (a.press (.char 'x')).1 = a.perform (.close id) ∧ (a.press (.char 's')).1 = a.perform (.toggleStick id) := by
  have hx : (a.press (.char 'x')).1 = a.onSome a.topmost .close := rfl
  have hs : (a.press (.char 's')).1 = a.onSome a.topmost .toggleStick := rfl
  rw [hx, hs, h]
  exact ⟨rfl, rfl⟩

theorem keysAct_of_topmost {s : Stack} (hst : a.desktop.StackedAs s) (hw : a.desktop.window? w.id = some w)
    (ht : a.topmost = some w.id) : KeysAct a w := by
  obtain ⟨hx, hs⟩ := press_topmost ht
  have hlive := (Desktop.mem_of_window? hw).1
  have hcore : a.desktop.core? w.id = some w.core := by rw [Desktop.core?, hw]; rfl
  have hstuck := Desktop.perform_toggleStick hw
  have others : ∀ {x : Action}, (∀ i, a.desktop.concerns i x = decide (some w.id = some i)) → ∀ i, i ≠ w.id →
      (a.desktop.perform x).1.core? i = a.desktop.core? i := fun hc i hi =>
    (Desktop.touch_perform a.desktop _).spares i (by rw [hc i]; simpa using Ne.symm hi)
  refine ⟨?_, ?_, ?_, fun i hi => ?_⟩
  · rw [hx, perform_desktop, Desktop.perform_close hw]
    split
    · rw [(Desktop.stackedAs_remove hst hlive).stack, hst.stack]
    · rfl
  · rw [hs, perform_desktop]
    rcases hstuck with ⟨h, hm⟩ | h
    · rw [h, hm, hcore]
      rfl
    · have hid : ∀ v : Window, { v with mode := w.stickToggled }.id = v.id := fun _ => rfl
      rw [h, Desktop.core?, Desktop.window?_change hid, hw]
      rfl
  · rw [hs, perform_desktop]
    rcases hstuck with ⟨h, -⟩ | h
    · rw [h]
    · rw [h, hst.stack]
      refine (hst.congr ?_).stack
      simp only [Desktop.change, List.map_map]
      refine List.map_congr_left fun v _ => ?_
      by_cases hv : v.id = w.id <;> simp [hv]
  · rw [hx, hs, perform_desktop, perform_desktop]
    exact ⟨others (fun _ => rfl) i hi, others (fun _ => rfl) i hi⟩

/-! ## At every moment -/

/-- The keys act on the topmost window, which is the front window exactly if it is not hidden. -/
theorem keys_act_on_top (l : CommandLine) (columns rows : Nat) (events : List (Nat × Event))
    (hw : ((start l columns rows).after events).desktop.Front w) :
    ∃ v, ((start l columns rows).after events).desktop.Top v ∧ (v = w ↔ v.mode.isHidden = false) ∧
      KeysAct ((start l columns rows).after events) v := by
  have hr := reached_after l columns rows events
  have hs := hr.sound (isNew_start l columns rows)
  have hst := hr.stackedAs (isNew_start l columns rows)
  generalize (start l columns rows).after events = a at *
  obtain ⟨v, hv, hlast⟩ := hst.exists_top (List.ne_nil_of_mem hw.live)
  refine ⟨v, hv, ⟨fun h => h ▸ hw.visible, fun hvisible => ?_⟩,
    keysAct_of_topmost hst (hs.window?_of_mem hv.live) hlast⟩
  have hz : v.z = w.z := Nat.le_antisymm (hw.highest v hv.live hvisible) (hv.highest w hw.live)
  exact hst.eq_of_z hs.nodup_ids hv.live hw.live hz

/-- The application with two notes, the second on top of the first. -/
def twoNotes : App := (start {} 80 24).after [(0, .key (.char '1') .press), (0, .key (.char '1') .press)]

/-- The second note was hidden by its button. -/
def hiddenTop : App := (start {} 80 24).after
  [(0, .key (.char '1') .press), (0, .key (.char '1') .press), (0, .mouse (leftPress 37 1))]

theorem hiddenTop_eq :
    hiddenTop = { twoNotes with router := { pending := some (0, ⟨37, 1⟩) } }.perform (.hide ⟨2⟩) := by
  have h : twoNotes.FirstPress 0 37 1 ⟨2⟩ (.control .hide) := by
    unfold FirstPress
    decide +kernel
  exact h.mouse_eq

/-- The first note is in front, although the second is the last of the stack; to close that leaves the first. -/
theorem hiddenTop_facts :
    ((hiddenTop.desktop.window? ⟨1⟩).any fun w =>
        !w.mode.isHidden && hiddenTop.desktop.windows.all fun v => v.mode.isHidden || v.z ≤ w.z) ∧
      (hiddenTop.desktop.windows.Pairwise fun v w => v.notAbove w) ∧
      (hiddenTop.desktop.windows.map Window.id).getLast? = some ⟨2⟩ ∧
      hiddenTop.desktop.ids = [⟨1⟩, ⟨2⟩] ∧ (hiddenTop.perform (.close ⟨2⟩)).desktop.ids = [⟨1⟩] := by
  rw [hiddenTop_eq]
  decide +kernel

theorem hiddenTop_front : ∃ w, hiddenTop.desktop.Front w ∧ w.id = ⟨1⟩ := Desktop.exists_front hiddenTop_facts.1

theorem keys_act_on_top_hidden :
    ∃ w, hiddenTop.desktop.Front w ∧ ∃ v, hiddenTop.desktop.Top v ∧ (v = w ↔ v.mode.isHidden = false) ∧
      KeysAct hiddenTop v := by
  obtain ⟨w, hw, -⟩ := hiddenTop_front
  exact ⟨w, hw, keys_act_on_top {} 80 24 _ hw⟩

/-- The key closes the second note, which is hidden, and not the first. -/
theorem keys_act_on_top_fails_hidden :
    (∃ w, hiddenTop.desktop.Front w ∧ w.id = ⟨1⟩) ∧ hiddenTop.desktop.ids = [⟨1⟩, ⟨2⟩] ∧
      (hiddenTop.press (.char 'x')).1.desktop.ids = [⟨1⟩] := by
  obtain ⟨-, hsorted, hlast, hids, hclosed⟩ := hiddenTop_facts
  have htop : hiddenTop.topmost = some ⟨2⟩ := by rwa [topmost, Desktop.stack, Desktop.stacked_of_pairwise hsorted]
  exact ⟨hiddenTop_front, hids, (press_topmost htop).1 ▸ hclosed⟩

end App

end FloatingPanels

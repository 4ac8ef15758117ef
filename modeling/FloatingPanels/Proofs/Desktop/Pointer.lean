import FloatingPanels.Proofs.Desktop.Modes
/-!
# Effects of gestures

A gesture raises its window when it starts; its moves and its end only change the
window in place.
-/

namespace FloatingPanels.Desktop

variable {d : Desktop}

/-! ## Gestures -/

theorem alike_start (hs : Sound d) {id : WindowId} {w : Window} (hw : d.window? id = some w) {mode : Mode}
    (hn : w.mode.isHidden = false) (hm : mode.isHidden = false) : Alike d (d.start id mode) (some id) := by
  have h : Alike d (d.change id fun v => { v with mode }) none := by
    refine alike_mode hs hw (fun _ => ⟨rfl, rfl⟩) ?_
    simp only [Window.entry, hn, hm]
  have hl := isLive_of_window? hw
  have hr := h.trans' (alike_raise (by rw [h.isLive]; exact hl))
  refine (hr.trans (alike_gesture fun i hi => ?_)).trans (alike_lockAll _ true)
  rw [hr.isLive, ← Option.some.inj hi]
  exact hl

theorem canStart_not_hidden {w : Window} (h : d.canStart w = true) : w.mode.isHidden = false := by
  simp only [canStart, Bool.and_eq_true, Bool.not_eq_true'] at h
  exact h.2

theorem does_beginDrag (hs : Sound d) (id : WindowId) (p : Point) : Does d (d.beginDrag id p) (some id) := by
  refine does_onWindow fun w hw => ?_
  split
  · rename_i hc
    exact .alike (alike_start hs hw (canStart_not_hidden hc) rfl)
  · exact effect_skip _

theorem does_beginResize (hs : Sound d) (id : WindowId) (h : Handle) (p : Point) :
    Does d (d.beginResize id h p) (some id) := by
  refine does_onWindow fun w hw => ?_
  split
  · rename_i hc
    exact .alike (alike_start hs hw (canStart_not_hidden (Bool.and_eq_true_iff.1 hc).1) rfl)
  · exact effect_skip _

theorem alike_pointerMove (hs : Sound d) (p : Point) : Alike d (d.pointerMove p).1 none := by
  unfold pointerMove
  split
  · exact .refl d
  · split
    · exact .refl d
    · rename_i w hw
      split
      · rename_i g hm
        refine alike_mode hs hw (fun _ => ⟨rfl, rfl⟩) ?_
        simp only [Window.entry, dragTo, hm]
        rfl
      · exact alike_mode hs hw (fun _ => ⟨rfl, rfl⟩) rfl
      · exact .refl d

theorem released_isHidden (m : Mode) : (Mode.released m).isHidden = m.isHidden := by
  cases m with
  | dragging g => exact ofRestore_not_hidden g.restore
  | _ => rfl

theorem alike_pointerUp (d : Desktop) : Alike d d.pointerUp.1 none := by
  unfold pointerUp
  split
  · exact .refl d
  · refine Alike.trans (alike_change ?_ fun v _ _ => ?_) (alike_endGesture _)
    · exact fun _ => ⟨rfl, rfl⟩
    · simp only [Window.entry, released_isHidden]

end FloatingPanels.Desktop

import FloatingPanels.Proofs.Desktop.Company
import FloatingPanels.Proofs.Run
/-!
# Pointer paths

A resize, and a drag that has nothing to restore, answer every position of the pointer
from where they began. `moved_path` compares two pointers that end in the same place:
whatever way one of them has taken, the session is the same as if it had come there at
once.
-/

namespace FloatingPanels

/-- The mode of a resize, or of a drag of a window that was not maximized or is no longer. -/
def Mode.isLoose : Mode → Bool
  | .resizing _ => true
  | .dragging g => g.restore.isNone
  | _ => false

namespace Desktop

variable {d : Desktop} {w : Window} {id : WindowId}

/-- A window is held by a resize, or by a drag that has nothing to restore. -/
def Held (d : Desktop) : Prop := (d.gesture.bind d.window?).any fun w => w.mode.isLoose

instance (d : Desktop) : Decidable d.Held := inferInstanceAs (Decidable (_ = true))

theorem Held.window (h : d.Held) : ∃ id w, d.gesture = some id ∧ d.window? id = some w ∧ w.mode.isLoose := by
  obtain ⟨w, hw, hm⟩ := Option.any_eq_true _ _ |>.1 h
  obtain ⟨id, hg, hw⟩ := Option.bind_eq_some_iff.1 hw
  exact ⟨id, w, hg, hw, hm⟩

theorem held_of_window (hg : d.gesture = some id) (hw : d.window? id = some w) (hm : w.mode.isLoose) : d.Held := by
  simp only [Held, hg, Option.bind_some, hw, Option.any_some, hm]

/-- The window that a gesture in this mode makes of `w` when the pointer is at `p`. -/
def pulled (d : Desktop) (m : Mode) (p : Point) (w : Window) : Window :=
  match m with
  | .dragging g => d.dragTo w g p
  | .resizing g => d.resizeTo w g p
  | _ => w

theorem pointerMove_eq (hg : d.gesture = some id) (hw : d.window? id = some w) (hm : w.mode.isLoose) (p : Point) :
    d.pointerMove p = (d.change id (d.pulled w.mode p), true) := by
  simp only [pointerMove, hg, hw]
  cases hmode : w.mode with
  | dragging g => rfl
  | resizing g => rfl
  | _ => rw [hmode] at hm; cases hm

/-! ## One window -/

theorem pulled_id (d : Desktop) (m : Mode) (p : Point) (w : Window) : (d.pulled m p w).id = w.id := by
  cases m <;> rfl

theorem pulled_mode {m : Mode} (hm : m.isLoose) (hw : w.mode = m) (p : Point) : (d.pulled m p w).mode = m := by
  subst hw
  cases hmode : w.mode with
  | dragging g =>
    rw [hmode] at hm
    simp only [pulled, dragTo, Option.isNone_iff_eq_none.1 hm]
  | resizing g => exact hmode
  | _ => rw [hmode] at hm; cases hm

/-- A pull moves a rectangle and leaves its size alone. -/
theorem size_dragTo {g : Drag} (hg : g.restore = none) (p : Point) : (d.dragTo w g p).rect.size = w.rect.size := by
  simp only [dragTo, hg]
  split
  · split <;> rfl
  · rfl

/-- A drag reads the size of its window, which it does not change, and a resize the
rectangle that it began with. -/
theorem pulled_pulled {m : Mode} (hm : m.isLoose) (p q : Point) : d.pulled m q (d.pulled m p w) = d.pulled m q w := by
  cases m with
  | dragging g =>
    have hnone : g.restore = none := Option.isNone_iff_eq_none.1 hm
    have hsize : (d.dragTo w g p).rect.size = w.rect.size := size_dragTo hnone p
    simp only [pulled]
    rw [dragTo]
    simp only [hnone, hsize]
    simp only [dragTo, hnone]
  | resizing g => rfl
  | _ => cases hm

/-! ## The desktop around it -/

/-- The lines that a window is pulled to are those of the others. -/
theorem clingRects_change {f : Window → Window} (hf : ∀ v, (f v).id = v.id) :
    (d.change id f).clingRects id = d.clingRects id := by
  simp only [clingRects, change]
  induction d.windows with
  | nil => rfl
  | cons v vs ih =>
    rw [List.map_cons, List.filter_cons, List.filter_cons]
    by_cases hv : v.id = id
    · simpa [hv, hf] using ih
    · simp only [hv, if_false]
      split
      · rw [List.map_cons, List.map_cons, ih]
      · exact ih

theorem pulled_change {f : Window → Window} (hf : ∀ v, (f v).id = v.id) (m : Mode) (p : Point) (w : Window) :
    (d.change w.id f).pulled m p w = d.pulled m p w := by
  have hlines : (d.change w.id f).clingRects w.id = d.clingRects w.id := clingRects_change hf
  cases m with
  | dragging g =>
    simp only [pulled, dragTo, hlines]
    rfl
  | resizing g =>
    simp only [pulled, resizeTo, hlines]
    rfl
  | _ => rfl

theorem ids_change {f : Window → Window} (hf : ∀ v, (f v).id = v.id) : (d.change id f).ids = d.ids := by
  simp only [ids, change, List.map_map]
  refine List.map_congr_left fun v _ => ?_
  simp only [Function.comp_apply]
  split
  · exact hf v
  · rfl

/-- A window that is held takes a move, is still held after it, and goes from there to
where it would have gone without it. -/
theorem Held.move (h : d.Held) (p : Point) :
    (d.pointerMove p).2 = true ∧ (d.pointerMove p).1.ids = d.ids ∧ (d.pointerMove p).1.Held ∧
      ∀ q, (d.pointerMove p).1.pointerMove q = d.pointerMove q := by
  obtain ⟨id, w, hg, hw, hm⟩ := h.window
  have hid := d.pulled_id w.mode p
  have hg' : (d.change id (d.pulled w.mode p)).gesture = some id := hg
  have hw' : (d.change id (d.pulled w.mode p)).window? id = some (d.pulled w.mode p w) := by
    rw [window?_change hid, hw]
    rfl
  have hmode : (d.pulled w.mode p w).mode = w.mode := pulled_mode hm rfl p
  have hm' : (d.pulled w.mode p w).mode.isLoose := by rwa [hmode]
  have hpull : ∀ q v, v.id = id →
      (d.change id (d.pulled w.mode p)).pulled w.mode q (d.pulled w.mode p v) = d.pulled w.mode q v := by
    intro q v hv
    rw [← hv, ← hid v, pulled_change hid, pulled_pulled hm]
  rw [pointerMove_eq hg hw hm]
  refine ⟨rfl, ids_change hid, held_of_window hg' hw' hm', fun q => ?_⟩
  rw [pointerMove_eq hg hw hm, pointerMove_eq hg' hw' hm', hmode, change_change hid]
  simp only [change, Prod.mk.injEq, and_true]
  congr 1
  refine List.map_congr_left fun v _ => ?_
  split
  · exact hpull q v ‹_›
  · rfl

end Desktop

namespace Session

variable {s : Session}

/-! ## Paths -/

/-- The session after the pointer has been at some positions. -/
def moved (s : Session) (path : List Point) : Session :=
  path.foldl (fun s p => (s.perform (.pointerMove p)).1) s

theorem perform_pointerMove (h : s.desktop.Held) (p : Point) :
    s.perform (.pointerMove p) = (⟨(s.desktop.pointerMove p).1, s.switchboard⟩, .flag true) := by
  obtain ⟨htrue, hids, -, -⟩ := h.move p
  simp only [perform, Desktop.perform, Answer.ofFlag, htrue, Machine.withDesktop_of_ids hids]

/-- A move that another one follows leaves no trace. -/
theorem perform_perform_pointerMove (h : s.desktop.Held) (p q : Point) :
    (s.perform (.pointerMove p)).1.perform (.pointerMove q) = s.perform (.pointerMove q) := by
  obtain ⟨-, -, hheld, hmove⟩ := h.move p
  rw [perform_pointerMove h p, perform_pointerMove h q, perform_pointerMove hheld q, hmove q]

/-- Whatever way the pointer has taken to a position, every move was taken by the gesture,
and the session is the same as if the pointer had come there at once. -/
theorem moved_path (h : s.desktop.Held) (path : List Point) (q : Point) :
    (s.moved path).perform (.pointerMove q) = s.perform (.pointerMove q) ∧
      (s.perform (.pointerMove q)).2 = .flag true := by
  refine ⟨?_, by rw [perform_pointerMove h q]⟩
  induction path generalizing s with
  | nil => rfl
  | cons p path ih =>
    have hheld : (s.perform (.pointerMove p)).1.desktop.Held := by
      rw [perform_pointerMove h p]
      exact (h.move p).2.2.1
    exact (ih hheld).trans (perform_perform_pointerMove h p q)

end Session

/-- A host that begins to resize a window at its right side, with another window to the
right of it. -/
def resizeBeside : Program :=
  .create [.passive { kind := "note" }] fun _ => .then_ (.beginDrag ⟨1⟩ ⟨0, 0⟩) (.then_ (.pointerMove ⟨200, 0⟩)
    (.then_ .pointerUp (.create [.passive { kind := "note" }] fun _ =>
      .then_ (.beginResize ⟨2⟩ .right ⟨50, 10⟩) .accept)))

/-- The way leads to the least size, onto the other window and into the end of the viewport. -/
theorem moved_path_beside :
    let s := (Machine.step^[16] (.start { desktop := .plain } resizeBeside)).session
    let path : List Point := [⟨-500, 0⟩, ⟨190, 10⟩, ⟨900, 10⟩]
    s.desktop.Held ∧
      path.map (fun p => ((s.moved [p]).desktop.window? ⟨2⟩).map Window.rect) =
        [some ⟨0, 0, 50, 62⟩, some ⟨0, 0, 200, 62⟩, some ⟨0, 0, 800, 62⟩] ∧
      (s.moved path).perform (.pointerMove ⟨150, 10⟩) = s.perform (.pointerMove ⟨150, 10⟩) ∧
      ((s.moved (path ++ [⟨150, 10⟩])).desktop.window? ⟨2⟩).map Window.rect = some ⟨0, 0, 150, 62⟩ := by
  intro s path
  have hheld : s.desktop.Held := by decide +kernel
  exact ⟨hheld, by decide +kernel, (Session.moved_path hheld path _).1, by decide +kernel⟩

end FloatingPanels

import FloatingPanels.Proofs.Desktop.Action
import FloatingPanels.Proofs.Desktop.Construction
import FloatingPanels.Proofs.Frame.Lock
/-!
# Postures

The `Posture` of a window is its mode, its rectangle and its lock, with the container
and the capabilities that it has for good. `posture?` gives the posture of every number,
and each basic change of a desktop is one equation through it. Most changes leave all
postures alone (`Unmoved`) or change the mode and the rectangle of one window (`Moved`).
-/

namespace FloatingPanels

structure Posture where
  container : String
  caps : Capabilities
  mode : Mode
  rect : Rect
  locked : Bool

def Window.posture (w : Window) : Posture := ⟨w.container, w.caps, w.mode, w.rect, w.frame.isLocked⟩

theorem Window.posture_sink (z : Nat) (w : Window) : (w.sink z).posture = w.posture := by
  unfold sink
  split <;> rfl

/-! ## What windows stand on -/

/-- The rectangles of the containers by name. -/
def Page.rects (p : Page) : Keyed String Rect := p.containers.map fun e => (e.1, e.2.rect)

theorem Page.value?_rects (p : Page) (name : String) : p.rects.value? name = (p.container? name).map Container.rect := by
  simp only [rects, container?, Keyed.value?, List.find?_map, Function.comp_def, Option.map_map]

theorem Page.rects_attach (p : Page) (name : String) (id : WindowId) : (p.attach name id).rects = p.rects := by
  simp only [rects, attach, Keyed.update, List.map_map]
  refine List.map_congr_left fun e _ => ?_
  by_cases h : e.1 = name <;> simp [h]

theorem Page.rects_detach (p : Page) (id : WindowId) : (p.detach id).rects = p.rects := by
  simp only [rects, detach, List.map_map]
  rfl

/-- Only the main container follows the viewport. -/
theorem Page.rects_setViewport (p : Page) (s : Size) :
    (p.setViewport s).rects = p.rects.map fun e => if e.1 = mainContainer then (e.1, viewportRect s) else e := by
  simp only [rects, setViewport, Keyed.update, List.map_map]
  refine List.map_congr_left fun e _ => ?_
  by_cases h : e.1 = mainContainer <;> simp [h]

/-- The page without its windows and anchors, and the least size of a window. -/
structure Ground where
  viewport : Size
  rects : Keyed String Rect
  least : Size

/-- The rectangle of a container, of the viewport if there is no such container. -/
def Ground.fill (g : Ground) (container : String) : Rect :=
  (g.rects.value? container).getD (Page.viewportRect g.viewport)

namespace Desktop

def ground (d : Desktop) : Ground := ⟨d.page.viewport, d.page.rects, d.settings.least⟩

theorem fillRect_eq (d : Desktop) (w : Window) : d.fillRect w = d.ground.fill w.container := by
  have h := d.page.value?_rects w.container
  unfold fillRect ground Ground.fill
  rw [h]
  cases d.page.container? w.container <;> rfl

/-! ## The view -/

def posture? (d : Desktop) (id : WindowId) : Option Posture := (d.window? id).map Window.posture

variable {d d' d₁ d₂ : Desktop}

theorem posture?_of_window? {id : WindowId} {w : Window} (h : d.window? id = some w) :
    d.posture? id = some w.posture := by
  rw [posture?, h, Option.map_some]

theorem window?_of_posture? {id : WindowId} {s : Posture} (h : d.posture? id = some s) :
    ∃ w, d.window? id = some w ∧ w.id = id ∧ w.posture = s := by
  obtain ⟨w, hw, rfl⟩ := Option.map_eq_some_iff.1 h
  exact ⟨w, hw, (mem_of_window? hw).2, rfl⟩

theorem posture?_isSome (d : Desktop) (id : WindowId) : (d.posture? id).isSome = d.isLive id := by
  rw [posture?, Option.isSome_map, isLive]

theorem posture?_map {f : Window → Window} (hw : d'.windows = d.windows.map f) (hf : ∀ v, (f v).id = v.id)
    (i : WindowId) : d'.posture? i = (d.window? i).map fun v => (f v).posture := by
  rw [posture?, window?_map hw hf, Option.map_map]
  rfl

/-- A change of the windows that keeps every posture. -/
theorem posture?_map_eq {f : Window → Window} (hw : d'.windows = d.windows.map f)
    (hf : ∀ v, (f v).id = v.id ∧ (f v).posture = v.posture) (i : WindowId) : d'.posture? i = d.posture? i := by
  rw [posture?_map hw fun v => (hf v).1, posture?]
  exact Option.map_congr fun v _ => (hf v).2

theorem window?_change_of_ne {id i : WindowId} {f : Window → Window} (hf : ∀ v, (f v).id = v.id) (hi : i ≠ id) :
    (d.change id f).window? i = d.window? i := by
  have hg : ∀ v, (if v.id = id then f v else v).id = v.id := by
    intro v
    split
    · exact hf v
    · rfl
  rw [@window?_map d _ _ rfl hg]
  cases h : d.window? i with
  | none => rfl
  | some v =>
    have : v.id ≠ id := (mem_of_window? h).2 ▸ hi
    rw [Option.map_some, if_neg this]

/-- A change of one window, by what it does to the posture. -/
theorem posture?_change {id : WindowId} {f : Window → Window} {g : Posture → Posture} (hf : ∀ v, (f v).id = v.id)
    (hg : ∀ v, d.window? id = some v → (f v).posture = g v.posture) (i : WindowId) :
    (d.change id f).posture? i = if i = id then (d.posture? i).map g else d.posture? i := by
  by_cases hi : i = id
  · subst hi
    rw [if_pos rfl, posture?, window?_change hf, posture?, Option.map_map, Option.map_map]
    exact Option.map_congr fun v hv => hg v hv
  · rw [if_neg hi, posture?, window?_change_of_ne hf hi, posture?]

theorem posture?_raise (d : Desktop) (id i : WindowId) : (d.raise id).1.posture? i = d.posture? i := by
  cases hw : d.window? id with
  | none => simp only [raise, hw]
  | some w =>
    rw [raise_of_window? hw]
    split
    · rfl
    · refine posture?_map_eq rfl (fun v => ?_) i
      split
      · exact ⟨rfl, rfl⟩
      · exact ⟨Window.sink_id w.z v, Window.posture_sink w.z v⟩

theorem posture?_lockAll (d : Desktop) (b : Bool) (i : WindowId) :
    (d.lockAll b).posture? i = (d.posture? i).map fun s => { s with locked := b } := by
  rw [posture?_map (f := fun w => { w with frame := w.frame.lock b }) rfl fun _ => rfl, posture?, Option.map_map]
  refine Option.map_congr fun v _ => ?_
  simp only [Function.comp_apply, Window.posture, Frame.isLocked_lock]

/-- The windows without one of them, of which those above it sink. -/
theorem window?_without {w : Window}
    (hw : d'.windows = (d.windows.filter fun v : Window => v.id ≠ w.id).map (Window.sink w.z)) (i : WindowId) :
    d'.window? i = if i = w.id then none else (d.window? i).map (Window.sink w.z) := by
  have h := @window?_map { d with windows := d.windows.filter fun v : Window => v.id ≠ w.id } d' _ hw
    (Window.sink_id w.z) i
  rw [h, window?, List.find?_filter]
  by_cases hi : i = w.id
  · subst hi
    simp
  · have hp : ∀ v : Window, decide (decide (v.id ≠ w.id) = true ∧ decide (v.id = i) = true) = decide (v.id = i) := by
      intro v
      by_cases hv : v.id = i <;> simp [hv, hi]
    simp only [if_neg hi, window?, hp]

theorem posture?_without {w : Window}
    (hw : d'.windows = (d.windows.filter fun v : Window => v.id ≠ w.id).map (Window.sink w.z)) (i : WindowId) :
    d'.posture? i = if i = w.id then none else d.posture? i := by
  rw [posture?, window?_without hw]
  split
  · rfl
  · rw [Option.map_map, posture?]
    exact Option.map_congr fun v _ => Window.posture_sink w.z v

theorem window?_append {w : Window} (hw : d'.windows = d.windows ++ [w]) (hn : d.window? w.id = none)
    (i : WindowId) : d'.window? i = if i = w.id then some w else d.window? i := by
  rw [window?, hw, List.find?_append]
  by_cases hi : i = w.id
  · subst hi
    rw [window?] at hn
    simp [hn]
  · simp [hi, Ne.symm hi, window?]

theorem posture?_append {w : Window} (hw : d'.windows = d.windows ++ [w]) (hn : d.posture? w.id = none)
    (i : WindowId) : d'.posture? i = if i = w.id then some w.posture else d.posture? i := by
  rw [posture?, window?_append hw (Option.map_eq_none_iff.1 hn)]
  split
  · rfl
  · rfl

/-! ## No window moves -/

/-- All windows keep their postures, and the gesture and the ground stay. -/
structure Unmoved (d d' : Desktop) : Prop where
  posture : ∀ i, d'.posture? i = d.posture? i
  gesture : d'.gesture = d.gesture
  ground : d'.ground = d.ground

theorem Unmoved.refl (d : Desktop) : Unmoved d d := ⟨fun _ => rfl, rfl, rfl⟩

theorem Unmoved.trans (h : Unmoved d d₁) (h' : Unmoved d₁ d₂) : Unmoved d d₂ :=
  ⟨fun i => (h'.posture i).trans (h.posture i), h'.gesture.trans h.gesture, h'.ground.trans h.ground⟩

theorem unmoved_raise (d : Desktop) (id : WindowId) : Unmoved d (d.raise id).1 := by
  have hp := posture?_raise d id
  obtain ⟨ws, h⟩ := raise_eq d id
  rw [h] at hp ⊢
  exact ⟨hp, rfl, rfl⟩

theorem unmoved_change {id : WindowId} {f : Window → Window} (hf : ∀ v, (f v).id = v.id)
    (hp : ∀ v, d.window? id = some v → (f v).posture = v.posture) : Unmoved d (d.change id f) := by
  refine ⟨fun i => ?_, rfl, rfl⟩
  rw [posture?_change (g := fun s => s) hf hp, Option.map_id', ite_self]

/-! ## One window moves -/

/-- One window takes another mode and another rectangle, and all else is as before. -/
structure Moved (d d' : Desktop) (w : Window) (mode : Mode) (rect : Rect) : Prop where
  posture : ∀ i, d'.posture? i = if i = w.id then some { w.posture with mode, rect } else d.posture? i
  gesture : d'.gesture = d.gesture
  ground : d'.ground = d.ground

variable {w : Window} {mode mode' : Mode} {rect rect' : Rect}

theorem Moved.trans (h : Moved d d₁ w mode rect) (h' : Unmoved d₁ d₂) : Moved d d₂ w mode rect :=
  ⟨fun i => (h'.posture i).trans (h.posture i), h'.gesture.trans h.gesture, h'.ground.trans h.ground⟩

theorem moved_change (hw : d.window? w.id = some w) {f : Window → Window} (hf : ∀ v, (f v).id = v.id)
    (hp : (f w).posture = { w.posture with mode, rect }) : Moved d (d.change w.id f) w mode rect := by
  refine ⟨fun i => ?_, rfl, rfl⟩
  rw [posture?_change (g := fun s => { s with mode, rect }) hf fun v hv => ?_]
  · refine ite_congr rfl (fun hi => ?_) fun _ => rfl
    rw [hi, posture?_of_window? hw, Option.map_some]
  · obtain rfl : w = v := Option.some.inj (hw.symm.trans hv)
    exact hp

/-- A window that has moved already moves on. -/
theorem Moved.change (h : Moved d d₁ w mode rect) {f : Window → Window} (hf : ∀ v, (f v).id = v.id)
    (hp : ∀ v, (f v).posture = { v.posture with mode := mode', rect := rect' }) :
    Moved d (d₁.change w.id f) w mode' rect' := by
  refine ⟨fun i => ?_, h.gesture, h.ground⟩
  rw [posture?_change (g := fun s => { s with mode := mode', rect := rect' }) hf fun v _ => hp v, h.posture]
  by_cases hi : i = w.id <;> simp [hi]

end Desktop

end FloatingPanels

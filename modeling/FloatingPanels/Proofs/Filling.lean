import FloatingPanels.Proofs.SavedRect
/-!
# Filling windows

A maximized window fills its container, and the viewport may change while it does.
`run_filling` says for which windows that holds at every moment of every run: those
that were at rest whenever the viewport changed. A window that was hidden, stuck or
held by a drag with a rectangle to restore is not resized with its container, and goes
on with the old fill when it comes back: `run_filling_fails_held`.
-/

namespace FloatingPanels

namespace Desktop

variable {d d' : Desktop} {w : Window}

/-- Whether an action resizes or moves a window that may fill its container without
regard to that: it is fitted or placed, or the viewport changes while the window has a
rectangle to restore but is not at rest. -/
def displaces (d : Desktop) (id : WindowId) : Action → Bool
  | .fit i _ => i = id
  | .placeUnder i _ => i = id
  | .setViewport _ => (d.window? id).any fun w => w.mode.saved?.isSome && w.mode.atRest.isNone
  | _ => false

theorem container?_isSome (hs : Sound d) {id : WindowId} (hw : d.window? id = some w) (s : Size) :
    ((d.page.setViewport s).container? w.container).isSome := by
  have hp := hs.placed w.entry (List.mem_map_of_mem (mem_of_window? hw).1)
  rw [← Page.children_setViewport d.page s, Page.children_names, ← Keyed.hasKey_iff] at hp
  rw [Page.container?, Keyed.value?_isSome]
  exact hp

theorem settledRect_maximized (hs : Sound d) {id : WindowId} (hw : d.window? id = some w) {saved : Rect}
    (hm : w.mode = .maximized saved) {s : Size} (hv : d'.page = d.page.setViewport s) :
    settledRect d'.page w = d'.ground.fill w.container := by
  obtain ⟨c, hc⟩ := Option.isSome_iff_exists.1 (container?_isSome hs hw s)
  rw [← hv] at hc
  have hr := d'.page.value?_rects w.container
  simp only [settledRect, hm, hc, Ground.fill, ground, hr, Option.map_some, Option.getD_some]

/-! ## One step -/

/-- What turns a window to another mode leaves it filling its container. -/
theorem Turn.filling {a : Action} {mode : Mode} {rect : Rect} (h : Turn d w a mode rect)
    (ha : ¬ d.displaces w.id a) (hw : w.mode.saved?.isSome → w.rect = d.ground.fill w.container)
    (hm : mode.saved?.isSome) : rect = d.ground.fill w.container := by
  cases h with
  | fill _ _ => exact d.fillRect_eq w
  | normalize _ _ _ => cases hm
  | hide hr _ => exact hw (by rwa [Mode.saved?_of_atRest hr])
  | reveal _ hr _ =>
    rw [Mode.saved?_ofRestore] at hm
    exact hw (by rwa [hr])
  | stick _ hr _ => exact hw (by rwa [Mode.saved?_of_atRest hr])
  | unstick _ hr =>
    rw [Mode.saved?_ofRestore] at hm
    exact hw (by rwa [hr])
  | fit _ _ => simp [displaces] at ha
  | place _ => simp [displaces] at ha
  | drag _ _ =>
    rw [dragTo_saved?] at hm
    cases hm
  | resize _ hr =>
    rw [hr] at hm
    cases hm

theorem Fate.filling {a : Option Action} {mode : Mode} {rect : Rect} (h : Fate d a d' w mode rect)
    (hs : Sound d) (hl : d.window? w.id = some w) (ha : ∀ b ∈ a, ¬ d.displaces w.id b)
    (hw : w.mode.saved?.isSome → w.rect = d.ground.fill w.container) (hm : mode.saved?.isSome) :
    rect = d'.ground.fill w.container := by
  cases h with
  | keep hd => exact hd ▸ hw hm
  | turn hb ht hd => exact hd ▸ ht.filling (ha _ hb) hw hm
  | grip _ _ ht hd => exact hd ▸ hw (ht.saved?_isSome hm)
  | release _ _ hd => exact hd ▸ hw (released_saved? _ ▸ hm)
  | settle hb hv =>
    -- The window has something to restore, so it is at rest, and so it is maximized.
    have hrest := ha _ hb
    simp only [displaces, hl, Option.any_some, hm, Bool.true_and, Option.isNone_iff_eq_none] at hrest
    cases hw : w.mode with
    | maximized saved => exact settledRect_maximized hs hl hw hv
    | normal => rw [hw] at hm; cases hm
    | _ => rw [hw] at hrest; exact absurd rfl hrest

/-- A window with something to restore fills its container. -/
def Filling (d : Desktop) (id : WindowId) : Prop :=
  ∀ w, d.window? id = some w → w.mode.saved?.isSome → w.rect = d.ground.fill w.container

theorem Shift.filling {a : Option Action} (h : Shift d a d') (hs : Sound d) {id : WindowId} (hf : d.Filling id)
    (ha : ∀ b ∈ a, ¬ d.displaces id b) : d'.Filling id := by
  intro w' hw' hm
  rcases h.fate (posture?_of_window? hw') with ⟨w, hw, hc, -, hfate⟩ | ⟨-, hnew, -⟩
  · obtain ⟨-, rfl⟩ := mem_of_window? hw
    have := hfate.filling hs hw ha (hf w hw) hm
    rwa [← hc] at this
  · rw [show w'.mode = .normal from hnew] at hm
    cases hm

/-- The container that lists a window is its own. -/
theorem fill_of_mem_children (hs : Sound d) (hw : w ∈ d.windows) {e : String × Container}
    (he : e ∈ d.page.containers) (hc : w.id ∈ e.2.children) : d.ground.fill w.container = e.2.rect := by
  rw [children_eq hs.toRoster he] at hc
  obtain ⟨x, hx, hid⟩ := List.mem_map.1 hc
  obtain ⟨hx, hname⟩ := List.mem_filter.1 hx
  obtain rfl := hs.eq_of_id hx (List.mem_map_of_mem hw) hid
  have hkeys := hs.containerKeys
  rw [Page.children_names] at hkeys
  have hv := Keyed.value?_of_mem hkeys he
  have hr := d.page.value?_rects w.container
  rw [show w.container = e.1 from of_decide_eq_true hname] at hr ⊢
  simp only [Ground.fill, ground, hr, Page.container?, hv, Option.map_some, Option.getD_some]

end Desktop

variable {d₀ : Desktop} {m : Machine} {ms : List Machine}

/-- A window that no step so far has displaced fills the container it is attached to
whenever it counts as maximized. -/
theorem run_filling (h₀ : d₀.IsNew) (h : Run d₀ (m :: ms)) {id : WindowId}
    (hd : ∀ n ∈ ms, ∀ a ∈ n.deed?, ¬ n.desktop.displaces id a) :
    ∀ w, m.desktop.window? id = some w → w.mode.isMaximized →
      ∀ e ∈ m.desktop.page.containers, id ∈ e.2.children → w.rect = e.2.rect := by
  have hf : m.desktop.Filling id := by
    refine run_keeps (P := fun d => d.Filling id) h₀ ?_ (fun hs hq hf hp => hf.filling hs hp hq) h hd
    intro w hw
    rw [Desktop.window?, h₀.windows] at hw
    cases hw
  intro w hw hm e he hc
  obtain ⟨hmem, rfl⟩ := Desktop.mem_of_window? hw
  rw [← Desktop.fill_of_mem_children (run_sound h₀ h) hmem he hc]
  exact hf w hw (Mode.saved?_of_isMaximized hm)

/-- A host that maximizes a window, changes the viewport and then sticks the window. -/
def viewportThenStick : Program :=
  .create [.passive { kind := "note" }] fun _ => .then_ (.maximize ⟨1⟩) (.then_ (.setViewport ⟨900, 700⟩)
    (.then_ (.stick ⟨1⟩) .accept))

theorem run_filling_viewportThenStick :
    let s := Machine.start { desktop := .plain } viewportThenStick
    Desktop.plain.IsNew ∧ (∀ n ∈ Machine.moments s 8, ∀ a ∈ n.deed?, ¬ n.desktop.displaces ⟨1⟩ a) ∧
      ∃ w, (Machine.step^[9] s).desktop.window? ⟨1⟩ = some w ∧ w.mode.isMaximized ∧ w.rect = ⟨0, 0, 900, 700⟩ ∧
        ∀ e ∈ (Machine.step^[9] s).desktop.page.containers, ⟨1⟩ ∈ e.2.children → w.rect = e.2.rect := by
  intro s
  obtain ⟨hd, hw⟩ : (∀ n ∈ Machine.moments s 8, ∀ a ∈ n.deed?, ¬ n.desktop.displaces ⟨1⟩ a) ∧
      ((Machine.step^[9] s).desktop.window? ⟨1⟩).map (fun w => (w.mode.isMaximized, w.rect)) =
        some (true, ⟨0, 0, 900, 700⟩) := by decide +kernel
  obtain ⟨w, hw, heq⟩ := Option.map_eq_some_iff.1 hw
  obtain ⟨hm, hr⟩ := Prod.mk.inj heq
  have hrun : Run .plain (Machine.step^[9] s :: Machine.moments s 8) := Run.moments viewportThenStick 9
  have hfill := run_filling Desktop.isNew_plain hrun hd w hw hm
  exact ⟨Desktop.isNew_plain, hd, w, hw, hm, hr, hfill⟩

/-- Whether an action gives a window another size or another place by itself. -/
def places : Action → Bool
  | .fit _ _ | .placeUnder _ _ => true
  | _ => false

/-- A host that maximizes a window, begins to drag it, changes the viewport and releases
the pointer. -/
def viewportWhileHeld : Program :=
  .create [.passive { kind := "note" }] fun _ => .then_ (.maximize ⟨1⟩) (.then_ (.beginDrag ⟨1⟩ ⟨5, 5⟩)
    (.then_ (.setViewport ⟨900, 700⟩) (.then_ .pointerUp .accept)))

/-- No window is fitted or placed, and yet the window is maximized in the end without
filling its container: the viewport changed while a drag held it. -/
theorem run_filling_fails_held :
    let s := Machine.start { desktop := .plain } viewportWhileHeld
    Desktop.plain.IsNew ∧ Run .plain (Machine.moments s 9) ∧
      (∀ n ∈ Machine.moments s 9, ∀ a ∈ n.deed?, ¬ places a) ∧
      ∃ w, (Machine.step^[9] s).desktop.window? ⟨1⟩ = some w ∧ w.mode.isMaximized ∧
        ∃ e ∈ (Machine.step^[9] s).desktop.page.containers, ⟨1⟩ ∈ e.2.children ∧ w.rect ≠ e.2.rect := by
  intro s
  obtain ⟨hw, hplaces, hcontainer⟩ :
      ((Machine.step^[9] s).desktop.window? ⟨1⟩).map (fun w => (w.mode.isMaximized, w.rect)) =
        some (true, ⟨0, 0, 800, 600⟩) ∧
      (∀ n ∈ Machine.moments s 9, ∀ a ∈ n.deed?, ¬ places a) ∧
      ∃ e ∈ (Machine.step^[9] s).desktop.page.containers, ⟨1⟩ ∈ e.2.children ∧
        (⟨0, 0, 800, 600⟩ : Rect) ≠ e.2.rect := by decide +kernel
  obtain ⟨w, hw, heq⟩ := Option.map_eq_some_iff.1 hw
  obtain ⟨hm, hr⟩ := Prod.mk.inj heq
  exact ⟨Desktop.isNew_plain, Run.moments viewportWhileHeld 9, hplaces, w, hw, hm, hr ▸ hcontainer⟩

end FloatingPanels

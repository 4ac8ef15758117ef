import FloatingPanels.Proofs.Desktop.Action
/-!
# What arranging leaves alone

To arrange windows is to move, raise, hide, stick, maximize or remove them, with the pointer
or without. `perform_rearranges` says that the windows that are left afterwards hold what they
held before: arranging changes how windows are shown and nothing of what is in them.
-/

namespace FloatingPanels

/-- A window, and the same window elsewhere, in another mode or with another lock. -/
structure Window.Rearranged (w w' : Window) : Prop where
  id : w'.id = w.id
  kind : w'.kind = w.kind
  address : w'.address = w.address
  frame : ∃ locks : List Bool, w'.frame = locks.foldl Frame.lock w.frame

namespace Window

theorem Rearranged.refl (w : Window) : w.Rearranged w := ⟨rfl, rfl, rfl, [], rfl⟩

theorem Rearranged.trans {u v w : Window} (h : u.Rearranged v) (h' : v.Rearranged w) : u.Rearranged w := by
  obtain ⟨ls, hls⟩ := h.frame
  obtain ⟨ls', hls'⟩ := h'.frame
  refine ⟨h'.id.trans h.id, h'.kind.trans h.kind, h'.address.trans h.address, ls ++ ls', ?_⟩
  rw [hls', hls, List.foldl_append]

theorem rearranged_sink (z : Nat) (w : Window) : w.Rearranged (w.sink z) := by
  unfold sink
  split
  · exact ⟨rfl, rfl, rfl, [], rfl⟩
  · exact .refl w

theorem rearranged_lock (w : Window) (b : Bool) : w.Rearranged { w with frame := w.frame.lock b } :=
  ⟨rfl, rfl, rfl, [b], rfl⟩

end Window

/-- Whether an action only changes which windows there are and how they are shown. -/
def Action.arranges : Action → Bool
  | .registerTemplate _ _ | .registerPreset _ _ _ | .setChrome _ | .setTitle _ _ | .setError _ _ | .setAddress _ _
  | .setContentText _ _ _ | .embed _ _ => false
  | _ => true

theorem Page.hasKey_map {l : Keyed String Container} {f : String × Container → String × Container}
    (hf : ∀ e, (f e).1 = e.1) : Keyed.hasKey (l.map f) = Keyed.hasKey l := by
  funext k
  simp only [Keyed.hasKey, List.any_map, Function.comp_def, hf]

namespace Desktop

/-- All windows of the second desktop are windows of the first, and new ones would be built
in the same way. -/
structure Rearranges (d d' : Desktop) : Prop where
  windows : ∀ w' ∈ d'.windows, ∃ w ∈ d.windows, w.Rearranged w'
  library : d'.library = d.library
  chrome : d'.chrome = d.chrome
  resolve : ∀ requested, d'.page.resolve requested = d.page.resolve requested

variable {d d' d₁ d₂ : Desktop}

theorem Rearranges.refl (d : Desktop) : Rearranges d d := ⟨fun w hw => ⟨w, hw, .refl w⟩, rfl, rfl, fun _ => rfl⟩

theorem Rearranges.trans (h : Rearranges d d₁) (h' : Rearranges d₁ d₂) : Rearranges d d₂ := by
  refine ⟨fun w₂ hw₂ => ?_, h'.library.trans h.library, h'.chrome.trans h.chrome,
    fun r => (h'.resolve r).trans (h.resolve r)⟩
  obtain ⟨w₁, hw₁, h₂⟩ := h'.windows w₂ hw₂
  obtain ⟨w, hw, h₁⟩ := h.windows w₁ hw₁
  exact ⟨w, hw, h₁.trans h₂⟩

/-! ## Changes of the windows -/

theorem rearranges_map {f : Window → Window} (hf : ∀ w : Window, w.Rearranged (f w)) :
    Rearranges d { d with windows := d.windows.map f } := by
  refine ⟨fun w' hw' => ?_, rfl, rfl, fun _ => rfl⟩
  obtain ⟨w, hw, rfl⟩ := List.mem_map.1 hw'
  exact ⟨w, hw, hf w⟩

/-- The tray, the gesture, the journal and all else that is not about windows or about how
they are built may be anything. -/
theorem Rearranges.congr (h : Rearranges d d₁) (hw : d'.windows = d₁.windows) (hl : d'.library = d₁.library)
    (hc : d'.chrome = d₁.chrome) (hp : ∀ requested, d'.page.resolve requested = d₁.page.resolve requested) :
    Rearranges d d' :=
  ⟨hw ▸ h.windows, hl.trans h.library, hc.trans h.chrome, fun r => (hp r).trans (h.resolve r)⟩

/-- One window is moved or takes another mode. -/
theorem rearranges_change {id : WindowId} {f : Window → Window} (hf : ∀ w : Window, w.Rearranged (f w)) :
    Rearranges d (d.change id f) := by
  refine rearranges_map fun w => ?_
  split
  · exact hf w
  · exact .refl w

theorem rearranges_raise (d : Desktop) (id : WindowId) : Rearranges d (d.raise id).1 := by
  cases hw : d.window? id with
  | none =>
    simp only [raise, hw]
    exact .refl d
  | some w =>
    rw [raise_of_window? hw]
    split
    · exact .refl d
    · refine rearranges_map fun v => ?_
      split
      · exact ⟨rfl, rfl, rfl, [], rfl⟩
      · exact Window.rearranged_sink w.z v

theorem rearranges_lockAll (d : Desktop) (b : Bool) : Rearranges d (d.lockAll b) :=
  rearranges_map fun w => w.rearranged_lock b

/-- Without a window the page still has its containers. -/
theorem resolve_detach (p : Page) (id : WindowId) (requested : Option String) :
    (p.detach id).resolve requested = p.resolve requested :=
  congrArg (Option.filter · (requested.or p.usual)) (Page.hasKey_map fun _ => rfl)

theorem resolve_setViewport (p : Page) (s : Size) (requested : Option String) :
    (p.setViewport s).resolve requested = p.resolve requested :=
  congrArg (Option.filter · (requested.or p.usual)) (Page.hasKey_map fun e => by split <;> rfl)

theorem rearranges_endGesture (d : Desktop) : Rearranges d d.endGesture :=
  (rearranges_lockAll d false).congr rfl rfl rfl fun _ => rfl

theorem rearranges_remove (d : Desktop) (w : Window) : Rearranges d (d.remove w) := by
  have hbare : ∀ d' : Desktop, d'.windows = (d.windows.filter fun v : Window => v.id ≠ w.id).map (Window.sink w.z) →
      d'.library = d.library → d'.chrome = d.chrome → d'.page = d.page.detach w.id → Rearranges d d' := by
    intro d' hw hl hc hp
    refine ⟨fun v' hv' => ?_, hl, hc, fun r => hp ▸ resolve_detach d.page w.id r⟩
    rw [hw] at hv'
    obtain ⟨v, hv, rfl⟩ := List.mem_map.1 hv'
    exact ⟨v, (List.mem_filter.1 hv).1, v.rearranged_sink w.z⟩
  -- With the window a gesture on it ends, and the frames are unlocked.
  unfold remove
  by_cases hg : d.gesture = some w.id
  · simp only [hg, if_true]
    have h := hbare { d with windows := _, page := d.page.detach w.id } rfl rfl rfl rfl
    exact (h.trans (rearranges_endGesture _)).congr rfl rfl rfl fun _ => rfl
  · simp only [hg, if_false]
    exact hbare _ rfl rfl rfl rfl

/-! ## Changes of mode -/

theorem rearranges_fill (d : Desktop) (w : Window) : Rearranges d (d.fill w) := by
  refine (rearranges_change ?_).trans (rearranges_raise _ w.id)
  exact fun _ => ⟨rfl, rfl, rfl, [], rfl⟩

theorem rearranges_normalizeWindow (d : Desktop) (w : Window) : Rearranges d (d.normalizeWindow w).1 := by
  unfold normalizeWindow
  split
  · split
    · exact rearranges_change fun _ => ⟨rfl, rfl, rfl, [], rfl⟩
    · exact .refl d
  · exact .refl d

theorem rearranges_revealWindow (d : Desktop) (w : Window) : Rearranges d (d.revealWindow w).1 := by
  unfold revealWindow
  split
  · rename_i restore _
    split
    · have h : Rearranges d (d.change w.id fun v => { v with mode := .ofRestore restore }) :=
        rearranges_change fun _ => ⟨rfl, rfl, rfl, [], rfl⟩
      exact (h.trans (rearranges_raise _ w.id)).congr rfl rfl rfl fun _ => rfl
    · exact .refl d
  · exact .refl d

theorem rearranges_maximizeWindow (d : Desktop) (w : Window) : Rearranges d (d.maximizeWindow w).1 := by
  unfold maximizeWindow
  split
  · exact .refl d
  · split
    · exact .refl d
    · exact .refl d
    · exact .refl d
    · exact rearranges_normalizeWindow d w
    · exact rearranges_fill d w
    · split
      · exact rearranges_revealWindow d w
      · exact rearranges_fill d w
    · exact (rearranges_revealWindow d w).trans (rearranges_fill _ w)

/-! ## Outcomes -/

/-- What is known of every window is known of the outcome. -/
theorem rearranges_onWindow {id : WindowId} {f : Window → Desktop × Bool} (h : ∀ w, Rearranges d (f w).1) :
    Rearranges d (Answer.ofOutcome d (d.onWindow id f)).1 := by
  unfold onWindow
  split
  · exact .refl d
  · exact h _

theorem rearranges_close (d : Desktop) (id : WindowId) : Rearranges d (Answer.ofOutcome d (d.close id)).1 := by
  refine rearranges_onWindow fun w => ?_
  split
  · exact rearranges_remove d w
  · exact .refl d

theorem rearranges_destroy (d : Desktop) (id : WindowId) : Rearranges d (Answer.ofDone d (d.destroy id)).1 := by
  unfold destroy
  split
  · exact .refl d
  · exact rearranges_remove d _

theorem rearranges_hide (d : Desktop) (id : WindowId) : Rearranges d (Answer.ofOutcome d (d.hide id)).1 := by
  refine rearranges_onWindow fun w => ?_
  split
  · rename_i restore _
    split
    · have h : Rearranges d (d.change id fun v => { v with mode := .hidden restore }) :=
        rearranges_change fun _ => ⟨rfl, rfl, rfl, [], rfl⟩
      exact h.congr rfl rfl rfl fun _ => rfl
    · exact .refl d
  · exact .refl d

theorem rearranges_stick (d : Desktop) (id : WindowId) : Rearranges d (Answer.ofOutcome d (d.stick id)).1 := by
  refine rearranges_onWindow fun w => ?_
  split
  · split
    · exact rearranges_change fun _ => ⟨rfl, rfl, rfl, [], rfl⟩
    · exact .refl d
  · exact .refl d

theorem rearranges_unstick (d : Desktop) (id : WindowId) : Rearranges d (Answer.ofOutcome d (d.unstick id)).1 := by
  refine rearranges_onWindow fun w => ?_
  split
  · exact rearranges_change fun _ => ⟨rfl, rfl, rfl, [], rfl⟩
  · exact .refl d

theorem rearranges_toggleStick (d : Desktop) (id : WindowId) :
    Rearranges d (Answer.ofOutcome d (d.toggleStick id)).1 := by
  unfold toggleStick
  split
  · exact .refl d
  · split
    · exact rearranges_unstick d id
    · exact rearranges_stick d id

theorem rearranges_fit (d : Desktop) (id : WindowId) (h : Handle) :
    Rearranges d (Answer.ofOutcome d (d.fit id h)).1 := by
  refine rearranges_onWindow fun w => ?_
  have resize : ∀ r : Rect, Rearranges d
      (if r = w.rect then (d, false) else (d.change id fun v => { v with rect := r }, true)).1 := by
    intro r
    split
    · exact .refl d
    · exact rearranges_change fun _ => ⟨rfl, rfl, rfl, [], rfl⟩
  split
  · exact .refl d
  · exact resize _

theorem rearranges_placeUnder (d : Desktop) (id : WindowId) (anchor : String) :
    Rearranges d (Answer.ofDone d (d.placeUnder id anchor)).1 := by
  unfold placeUnder
  split
  · exact .refl d
  · split
    · exact rearranges_change fun _ => ⟨rfl, rfl, rfl, [], rfl⟩
    · exact .refl d

/-! ## The pointer -/

theorem rearranges_start (d : Desktop) (id : WindowId) (mode : Mode) : Rearranges d (d.start id mode) := by
  have h : Rearranges d (d.change id fun v => { v with mode }) :=
    rearranges_change fun _ => ⟨rfl, rfl, rfl, [], rfl⟩
  refine Rearranges.trans ?_ (rearranges_lockAll _ true)
  exact (h.trans (rearranges_raise _ id)).congr rfl rfl rfl fun _ => rfl

theorem rearranges_beginDrag (d : Desktop) (id : WindowId) (p : Point) :
    Rearranges d (Answer.ofOutcome d (d.beginDrag id p)).1 := by
  refine rearranges_onWindow fun w => ?_
  split
  · exact rearranges_start d id _
  · exact .refl d

theorem rearranges_beginResize (d : Desktop) (id : WindowId) (h : Handle) (p : Point) :
    Rearranges d (Answer.ofOutcome d (d.beginResize id h p)).1 := by
  refine rearranges_onWindow fun w => ?_
  split
  · exact rearranges_start d id _
  · exact .refl d

theorem rearranges_pointerMove (d : Desktop) (p : Point) : Rearranges d (d.pointerMove p).1 := by
  unfold pointerMove
  split
  · exact .refl d
  · split
    · exact .refl d
    · split
      · exact rearranges_change fun _ => ⟨rfl, rfl, rfl, [], rfl⟩
      · exact rearranges_change fun _ => ⟨rfl, rfl, rfl, [], rfl⟩
      · exact .refl d

theorem rearranges_pointerUp (d : Desktop) : Rearranges d d.pointerUp.1 := by
  unfold pointerUp
  split
  · exact .refl d
  · rename_i id _
    have h : Rearranges d (d.change id fun w => { w with mode := Mode.released w.mode }) :=
      rearranges_change fun _ => ⟨rfl, rfl, rfl, [], rfl⟩
    exact (h.trans (rearranges_lockAll _ false)).congr rfl rfl rfl fun _ => rfl

/-! ## Every action that arranges -/

theorem rearranges_direct (d : Desktop) {a : Action} (ha : a.arranges) (hd : d.directed a = some a) :
    Rearranges d (d.perform a).1 := by
  have same : ∀ {d' : Desktop}, d'.windows = d.windows → d'.library = d.library → d'.chrome = d.chrome →
      (∀ r, d'.page.resolve r = d.page.resolve r) → Rearranges d d' := fun hw hl hc hp => (Rearranges.refl d).congr hw hl hc hp
  cases a with
  | setSensitivity n => exact same rfl rfl rfl fun _ => rfl
  | setViewport s =>
    have h : Rearranges d { d with windows := d.windows.map fun w => { w with rect := settledRect (d.page.setViewport s) w } } :=
      rearranges_map fun _ => ⟨rfl, rfl, rfl, [], rfl⟩
    exact h.congr rfl rfl rfl fun r => resolve_setViewport d.page s r
  | setAnchor name rect => exact same rfl rfl rfl fun _ => rfl
  | destroy id => exact rearranges_destroy d id
  | close id => exact rearranges_close d id
  | bringToFront id => exact rearranges_onWindow fun _ => rearranges_raise d id
  | maximize id => exact rearranges_onWindow fun w => rearranges_maximizeWindow d w
  | normalize id => exact rearranges_onWindow fun w => rearranges_normalizeWindow d w
  | hide id => exact rearranges_hide d id
  | reveal id => exact rearranges_onWindow fun w => rearranges_revealWindow d w
  | stick id => exact rearranges_stick d id
  | unstick id => exact rearranges_unstick d id
  | toggleStick id => exact rearranges_toggleStick d id
  | fit id h => exact rearranges_fit d id h
  | placeUnder id anchor => exact rearranges_placeUnder d id anchor
  | beginDrag id p => exact rearranges_beginDrag d id p
  | beginResize id h p => exact rearranges_beginResize d id h p
  | pointerMove p => exact rearranges_pointerMove d p
  | pointerUp => exact rearranges_pointerUp d
  | pointerDown p =>
    obtain ⟨t, -, ht⟩ := Option.map_eq_some_iff.1 hd
    exact absurd ht (pressAction_ne t.1 p t.2)
  | doubleClick p =>
    obtain ⟨t, -, ht⟩ := Option.bind_eq_some_iff.1 hd
    exact absurd ht (doubleClickAction_ne t.1 p t.2)
  | note data => exact same rfl rfl rfl fun _ => rfl
  | _ => cases ha

/-- What a press comes to arranges windows as the press does. -/
theorem arranges_directed {a b : Action} (ha : a.arranges) (h : d.directed a = some b) : b.arranges := by
  cases a with
  | pointerDown p =>
    obtain ⟨t, -, rfl⟩ := Option.map_eq_some_iff.1 h
    cases t.2 with
    | control c => cases c <;> rfl
    | _ => rfl
  | doubleClick p =>
    obtain ⟨t, -, ht⟩ := Option.bind_eq_some_iff.1 h
    cases hp : t.2 <;> rw [hp] at ht <;> cases ht <;> rfl
  | _ => cases h; exact ha

theorem perform_rearranges (d : Desktop) {a : Action} (ha : a.arranges) : Rearranges d (d.perform a).1 := by
  rw [perform_directed]
  cases h : d.directed a with
  | none => exact .refl d
  | some b => exact rearranges_direct d (arranges_directed ha h) (directed_directed h)

end Desktop

end FloatingPanels

import FloatingPanels.Proofs.Desktop.Stack
import FloatingPanels.Proofs.Keyed
/-!
# The books of a desktop

Windows, containers, addresses and the tray refer to each other by numbers. An
`Entry` is what the others rely on in a window, and the lemmas here say what each
operation of `Desktop.Basic` does to the entries and to the lists of children. Most
operations leave both as they are and raise a window at most; two desktops are then
`Alike`. An `Effect` is what any operation does, in six cases.
-/

namespace FloatingPanels

/-- What the rest of a desktop relies on in a window. -/
structure Entry where
  id : WindowId
  container : String
  address : Option String
  hidden : Bool
  /-- Whether it has the capability to be hidden. -/
  hides : Bool

def Window.entry (w : Window) : Entry := ⟨w.id, w.container, w.address, w.mode.isHidden, w.caps.hide⟩

theorem Window.sink_entry (z : Nat) (w : Window) : (w.sink z).entry = w.entry := by
  unfold sink
  split <;> rfl

namespace Page

/-- The containers by name with their windows. -/
def children (p : Page) : List (String × List WindowId) := p.containers.map fun e => (e.1, e.2.children)

theorem children_names (p : Page) : p.children.map Prod.fst = p.containers.keys := by
  simp [children, Keyed.keys]

theorem children_update (p : Page) (name : String) (f : Container → Container) (g : List WindowId → List WindowId)
    (hf : ∀ c, (f c).children = g c.children) :
    children { p with containers := Keyed.update name f p.containers } =
      p.children.map fun c => if c.1 = name then (c.1, g c.2) else c := by
  simp only [children, Keyed.update, List.map_map]
  refine List.map_congr_left fun e _ => ?_
  by_cases h : e.1 = name <;> simp [h, hf]

@[simp] theorem children_setViewport (p : Page) (s : Size) : (p.setViewport s).children = p.children := by
  have h := children_update { p with viewport := s } mainContainer (fun c => { c with rect := viewportRect s })
    (fun l => l) fun _ => rfl
  exact h.trans (by simp [children])

theorem children_attach (p : Page) (name : String) (id : WindowId) :
    (p.attach name id).children = p.children.map fun c => if c.1 = name then (c.1, c.2 ++ [id]) else c :=
  children_update p name _ (· ++ [id]) fun _ => rfl

theorem children_detach (p : Page) (id : WindowId) :
    (p.detach id).children = p.children.map fun c => (c.1, c.2.filter (· ≠ id)) := by
  simp [children, detach]

end Page

namespace Desktop

def entries (d : Desktop) : List Entry := d.windows.map Window.entry

theorem isLive_iff {d : Desktop} {id : WindowId} : d.isLive id = true ↔ ∃ e ∈ d.entries, e.id = id := by
  simp [isLive, window?, entries, Window.entry, List.find?_isSome]

theorem ids_eq (d : Desktop) : d.ids = d.entries.map Entry.id := by
  simp [ids, entries, Window.entry]

/-! ## Entries after an operation -/

theorem entries_change {d : Desktop} {id : WindowId} {f : Window → Window}
    (hf : ∀ v ∈ d.windows, v.id = id → (f v).entry = v.entry) : (d.change id f).entries = d.entries := by
  simp only [entries, change, List.map_map]
  refine List.map_congr_left fun v hv => ?_
  by_cases h : v.id = id
  · simpa [h] using hf v hv h
  · simp [h]

/-- A change of the entry of one window. -/
theorem entries_change_of {d : Desktop} {id : WindowId} {f : Window → Window} {g : Entry → Entry}
    (hf : ∀ v, (f v).entry = g v.entry) :
    (d.change id f).entries = d.entries.map fun e => if e.id = id then g e else e := by
  simp only [entries, change, List.map_map]
  refine List.map_congr_left fun v _ => ?_
  by_cases h : v.id = id
  · simp [h, hf, show v.entry.id = id from h]
  · simp [h, show v.entry.id ≠ id from h]

@[simp] theorem entries_lockAll (d : Desktop) (b : Bool) : (d.lockAll b).entries = d.entries := by
  simp only [entries, lockAll, List.map_map]
  rfl

theorem entries_raise (d : Desktop) (id : WindowId) : (d.raise id).1.entries = d.entries := by
  cases h : d.window? id with
  | none => simp [raise, h]
  | some w =>
    rw [raise_of_window? h]
    split
    · rfl
    · simp only [entries, List.map_map]
      refine List.map_congr_left fun v _ => ?_
      by_cases hv : v.id = id
      · simp [hv, Window.entry]
      · simp [hv, Window.sink_entry]

/-- Raising a window changes nothing but heights. -/
theorem raise_eq (d : Desktop) (id : WindowId) : ∃ ws, (d.raise id).1 = { d with windows := ws } := by
  unfold raise
  split
  · exact ⟨d.windows, rfl⟩
  · dsimp only
    split
    · exact ⟨d.windows, rfl⟩
    · exact ⟨_, rfl⟩

/-! ## Operations that leave the books alone -/

/-- A reference to a window is kept, dropped, or set to a live window. -/
def Names (d : Desktop) (old new : Option WindowId) : Prop :=
  new = old ∨ ∀ id, new = some id → d.isLive id

/-- The books of two desktops are the same. What they name as the gesture and as the
last creation may differ, and a window may have been raised. -/
structure Alike (d d' : Desktop) (raised : Option WindowId) : Prop where
  entries : d'.entries = d.entries
  children : d'.page.children = d.page.children
  addresses : d'.addresses = d.addresses
  tray : d'.tray = d.tray
  issued : d'.issued = d.issued
  gesture : d.Names d.gesture d'.gesture
  lastCreated : d.Names d.lastCreated d'.lastCreated
  stacked : ∀ s, d.StackedAs s → d'.StackedAs (s.raise raised)

variable {d d₁ d₂ : Desktop} {r : Option WindowId}

theorem Alike.refl (d : Desktop) : Alike d d none := ⟨rfl, rfl, rfl, rfl, rfl, .inl rfl, .inl rfl, fun _ h => h⟩

theorem Alike.isLive (h : Alike d d₁ r) (id : WindowId) : d₁.isLive id = d.isLive id := by
  rw [Bool.eq_iff_iff, isLive_iff, isLive_iff, h.entries]

theorem Names.trans {a b c : Option WindowId} (h : Alike d d₁ r) (h₁ : d.Names a b) (h₂ : d₁.Names b c) :
    d.Names a c := by
  rcases h₂ with rfl | h₂
  · exact h₁
  · exact .inr fun id hid => by rw [← h.isLive]; exact h₂ id hid

/-- One after the other, if raising two windows in turn is raising one. -/
theorem Alike.comp {r₁ r₂ : Option WindowId} (h : Alike d d₁ r₁) (h' : Alike d₁ d₂ r₂)
    (hr : ∀ s : Stack, (s.raise r₁).raise r₂ = s.raise r) : Alike d d₂ r where
  entries := h'.entries.trans h.entries
  children := h'.children.trans h.children
  addresses := h'.addresses.trans h.addresses
  tray := h'.tray.trans h.tray
  issued := h'.issued.trans h.issued
  gesture := .trans h h.gesture h'.gesture
  lastCreated := .trans h h.lastCreated h'.lastCreated
  stacked s hs := hr s ▸ h'.stacked _ (h.stacked s hs)

theorem Alike.trans (h : Alike d d₁ r) (h' : Alike d₁ d₂ none) : Alike d d₂ r := h.comp h' fun _ => rfl

theorem Alike.trans' (h : Alike d d₁ none) (h' : Alike d₁ d₂ r) : Alike d d₂ r := h.comp h' fun _ => rfl

/-- A change of windows that keeps their entries and heights. -/
theorem Alike.of_windows {ws : List Window} (he : ws.map Window.entry = d.entries)
    (hz : (ws.map fun w => (w.id, w.z)) = d.windows.map fun w => (w.id, w.z)) :
    Alike d { d with windows := ws } none := ⟨he, rfl, rfl, rfl, rfl, .inl rfl, .inl rfl, fun _ h => h.congr hz⟩

theorem heights_change {id : WindowId} {f : Window → Window} (hf : ∀ v, (f v).id = v.id ∧ (f v).z = v.z) :
    ((d.change id f).windows.map fun w => (w.id, w.z)) = d.windows.map fun w => (w.id, w.z) := by
  simp only [change, List.map_map]
  refine List.map_congr_left fun v _ => ?_
  by_cases h : v.id = id <;> simp [h, hf]

theorem alike_change {id : WindowId} {f : Window → Window} (hz : ∀ v, (f v).id = v.id ∧ (f v).z = v.z)
    (hf : ∀ v ∈ d.windows, v.id = id → (f v).entry = v.entry) : Alike d (d.change id f) none :=
  .of_windows (entries_change hf) (heights_change hz)

theorem alike_lockAll (d : Desktop) (b : Bool) : Alike d (d.lockAll b) none :=
  .of_windows (entries_lockAll d b) (by simp only [List.map_map]; rfl)

theorem alike_raise {id : WindowId} (hl : d.isLive id) : Alike d (d.raise id).1 (some id) := by
  have he := entries_raise d id
  have hs := fun s hs => StackedAs.raise (d := d) (s := s) hs hl
  obtain ⟨ws, h⟩ := raise_eq d id
  rw [h] at he hs ⊢
  exact ⟨he, rfl, rfl, rfl, rfl, .inl rfl, .inl rfl, hs⟩

theorem alike_gesture {g : Option WindowId} (h : ∀ id, g = some id → d.isLive id) :
    Alike d { d with gesture := g } none :=
  ⟨rfl, rfl, rfl, rfl, rfl, .inr h, .inl rfl, fun _ h => h.congr rfl⟩

theorem alike_endGesture (d : Desktop) : Alike d d.endGesture none :=
  (alike_gesture (g := none) (by simp)).trans (alike_lockAll _ false)

/-! ## What an operation does to the books -/

/-- The entry of one window has changed. -/
structure Edited (d d' : Desktop) (id : WindowId) (g : Entry → Entry) : Prop where
  entries : d'.entries = d.entries.map fun e => if e.id = id then g e else e
  children : d'.page.children = d.page.children
  issued : d'.issued = d.issued
  gesture : d'.gesture = d.gesture
  lastCreated : d'.lastCreated = d.lastCreated
  stacked : ∀ s, d.StackedAs s → d'.StackedAs s

/-- A window is changed, and the addresses and the tray with it. -/
theorem edited_change {id : WindowId} {f : Window → Window} {g : Entry → Entry}
    (hz : ∀ v, (f v).id = v.id ∧ (f v).z = v.z) (hf : ∀ v, (f v).entry = g v.entry)
    (addresses : Keyed String WindowId) (tray : Tray) :
    Edited d { d.change id f with addresses, tray } id g :=
  ⟨entries_change_of hf, rfl, rfl, rfl, rfl, fun _ h => h.congr (heights_change hz)⟩

theorem Edited.isLive {id : WindowId} {g : Entry → Entry} (h : Edited d d₁ id g) (hid : ∀ e, (g e).id = e.id)
    (i : WindowId) : d₁.isLive i = d.isLive i := by
  have hids : d₁.ids = d.ids := by
    rw [ids_eq, ids_eq, h.entries, List.map_map]
    refine List.map_congr_left fun e _ => ?_
    by_cases he : e.id = id <;> simp [he, hid]
  rw [Bool.eq_iff_iff, isLive_iff_mem_ids, isLive_iff_mem_ids, hids]

/-- Nothing, or one of five things: a window claims an address, goes into the tray,
comes out of it, is added or is removed. The window that it raises is told, and the
one that it adds, with its container. -/
inductive Effect (d d' : Desktop) : (raised : Option WindowId) → (added : Option (WindowId × String)) → Prop
  | alike {r : Option WindowId} (h : Alike d d' r) : Effect d d' r none
  | claim {w : Window} (hw : w ∈ d.windows) (address : String)
      (h : Edited d d' w.id fun e => { e with address := some address })
      (ha : d'.addresses = Keyed.set address w.id (d.addressesWithout w)) (ht : d'.tray = d.tray) :
      Effect d d' none none
  | hide {w : Window} (hw : w ∈ d.windows) (hn : w.mode.isHidden = false) (hc : w.caps.hide) (title : String)
      (h : Edited d d' w.id fun e => { e with hidden := true })
      (ha : d'.addresses = d.addresses) (ht : d'.tray = d.tray.hide w.id title) : Effect d d' none none
  | reveal {w : Window} (d₁ : Desktop) (h₁ : Alike d₁ d' (some w.id)) (hw : w ∈ d.windows)
      (h : Edited d d₁ w.id fun e => { e with hidden := false })
      (ha : d₁.addresses = d.addresses) (ht : d₁.tray = d.tray.restore w.id) : Effect d d' (some w.id) none
  | add {e : Entry} (hid : e.id = ⟨d.issued + 1⟩) (hh : e.hidden = false)
      (hc : e.container ∈ d.page.children.map Prod.fst)
      (he : d'.entries = d.entries ++ [e])
      (hp : d'.page.children = d.page.children.map fun c => if c.1 = e.container then (c.1, c.2 ++ [e.id]) else c)
      (hi : d'.issued = d.issued + 1) (hg : d'.gesture = d.gesture) (hl : d'.lastCreated = d.lastCreated)
      (ha : d'.addresses = match e.address with
        | some a => Keyed.set a e.id d.addresses
        | none => d.addresses)
      (ht : d'.tray = d.tray) (hs : ∀ s, d.StackedAs s → d'.StackedAs (s ++ [e.id])) : Effect d d' none (some (e.id, e.container))
  | remove {w : Window} (hw : w ∈ d.windows) (he : d'.entries = d.entries.filter fun e => e.id ≠ w.id)
      (hp : d'.page.children = d.page.children.map fun c => (c.1, c.2.filter (· ≠ w.id)))
      (hi : d'.issued = d.issued)
      (hg : ∀ id, d'.gesture = some id → d.gesture = some id ∧ id ≠ w.id)
      (hl : ∀ id, d'.lastCreated = some id → d.lastCreated = some id ∧ id ≠ w.id)
      (ha : d'.addresses = d.addresses.filter fun e => e.2 ≠ w.id)
      (ht : d'.tray = if w.mode.isHidden then d.tray.restore w.id else d.tray)
      (hs : ∀ s, d.StackedAs s → d'.StackedAs (s.without w.id)) : Effect d d' none none

end Desktop

end FloatingPanels

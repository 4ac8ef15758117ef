import FloatingPanels.Desktop.Action
import FloatingPanels.Proofs.Desktop.Effects
/-!
# Effects of the basic operations

What is known of every live window is known of every outcome of an operation on a
window. The operations of `Desktop.Basic` change windows in place, claim an address or
remove a window.
-/

namespace FloatingPanels.Desktop

variable {d : Desktop}

/-! ## Outcomes -/

/-- An outcome has an effect, which raises the window `r` if the answer is true. -/
def Does (d : Desktop) (o : Outcome) (r : Option WindowId) : Prop :=
  ∀ d' b, o = .ok (d', b) → Effect d d' (if b then r else none) none

theorem does_onWindow {id : WindowId} {f : Window → Desktop × Bool} {r : Option WindowId}
    (h : ∀ w, d.window? id = some w → Effect d (f w).1 (if (f w).2 then r else none) none) : Does d (d.onWindow id f) r := by
  intro d' b ho
  unfold onWindow at ho
  split at ho
  · cases ho
  · rename_i w hw
    obtain hf : f w = (d', b) := Except.ok.inj ho
    have := h w hw
    rwa [hf] at this

theorem effect_refl (d : Desktop) : Effect d d none none := .alike (.refl d)

/-- Nothing was done. -/
theorem effect_skip (r : Option WindowId) : Effect d d (if false = true then r else none) none := effect_refl d

/-- An operation that raises no window. -/
theorem does_onWindow_none {id : WindowId} {f : Window → Desktop × Bool}
    (h : ∀ w, d.window? id = some w → Effect d (f w).1 none none) : Does d (d.onWindow id f) none := by
  refine does_onWindow fun w hw => ?_
  rw [ite_self]
  exact h w hw

theorem Does.effect {o : Outcome} (h : Does d o none) : Effect d (Answer.ofOutcome d o).1 none none := by
  cases o with
  | error e => exact effect_refl d
  | ok x =>
    have := h x.1 x.2 rfl
    rwa [ite_self] at this

/-- The window is raised if the answer says so. -/
theorem Does.effect_of_answer {o : Outcome} {r : Option WindowId} (h : Does d o r) :
    Effect d (Answer.ofOutcome d o).1 (if (Answer.ofOutcome d o).2 = .flag true then r else none) none := by
  cases o with
  | error e => exact effect_refl d
  | ok x =>
    have := h x.1 x.2 rfl
    simpa [Answer.ofOutcome] using this

/-! ## Windows changed in place -/

/-- A window may take another mode if that is as hidden as the one before. -/
theorem alike_mode (hs : Sound d) {id : WindowId} {w : Window} (hw : d.window? id = some w) {f : Window → Window}
    (hz : ∀ v, (f v).id = v.id ∧ (f v).z = v.z) (he : (f w).entry = w.entry) : Alike d (d.change id f) none := by
  refine alike_change hz fun v hv hid => ?_
  rw [eq_of_window? hs.nodup_ids hw hv hid]
  exact he

/-- Nothing but the page's anchors, the settings and the like has changed. -/
theorem alike_of_same {d' : Desktop} (hw : d'.windows = d.windows) (hp : d'.page.children = d.page.children)
    (ha : d'.addresses = d.addresses) (ht : d'.tray = d.tray) (hi : d'.issued = d.issued)
    (hg : d'.gesture = d.gesture) (hl : d'.lastCreated = d.lastCreated) : Alike d d' none :=
  ⟨by rw [entries, hw, entries], hp, ha, ht, hi, .inl hg, .inl hl, fun _ h => h.congr (by rw [hw])⟩

theorem alike_changeFrame (d : Desktop) (id : WindowId) (f : Frame → Frame) : Alike d (d.changeFrame id f).1 none := by
  unfold changeFrame
  split
  · exact alike_change (fun _ => ⟨rfl, rfl⟩) fun _ _ _ => rfl
  · exact .refl d

theorem alike_setContentText (d : Desktop) (id : WindowId) (name text : String) :
    Alike d (d.setContentText id name text).1 none := by
  unfold setContentText
  split
  · exact alike_change (fun _ => ⟨rfl, rfl⟩) fun _ _ _ => rfl
  · exact .refl d

theorem alike_embed (d : Desktop) (id : WindowId) (widget : String) : Alike d (d.embed id widget).1 none := by
  unfold embed
  split
  · exact alike_change (fun _ => ⟨rfl, rfl⟩) fun _ _ _ => rfl
  · exact .refl d

theorem alike_placeUnder {d' : Desktop} {id : WindowId} {anchor : String} (h : d.placeUnder id anchor = .ok d') :
    Alike d d' none := by
  unfold placeUnder at h
  split at h
  · cases h
  · split at h
    · cases h
      exact alike_change (fun _ => ⟨rfl, rfl⟩) fun _ _ _ => rfl
    · cases h

theorem alike_setViewport (d : Desktop) (s : Size) : Alike d (d.setViewport s) none := by
  refine ⟨?_, Page.children_setViewport d.page s, rfl, rfl, rfl, .inl rfl, .inl rfl, fun _ h => h.congr ?_⟩
  · simp only [entries, setViewport, List.map_map]
    rfl
  · simp only [setViewport, List.map_map]
    rfl

theorem effect_setAddress (id : WindowId) (address : String) :
    Effect d (d.setAddress id address).1 none none := by
  unfold setAddress
  split
  · exact effect_refl d
  · rename_i w hw
    obtain ⟨hm, rfl⟩ := mem_of_window? hw
    refine .claim hm address (edited_change ?_ ?_ _ d.tray) rfl rfl
    · exact fun _ => ⟨rfl, rfl⟩
    · exact fun _ => rfl

/-! ## Removal -/

theorem entries_sink (w : Window) :
    ((d.windows.filter fun v : Window => v.id ≠ w.id).map (Window.sink w.z)).map Window.entry =
      d.entries.filter fun e => e.id ≠ w.id := by
  rw [List.map_map, entries, List.filter_map]
  exact List.map_congr_left fun v _ => Window.sink_entry w.z v

/-- The windows that were above it sink, and the others stay where they are. -/
theorem stackedAs_remove {s : Stack} (h : d.StackedAs s) {w : Window} (hw : w ∈ d.windows) :
    (d.remove w).StackedAs (s.without w.id) := by
  by_cases hg : d.gesture = some w.id
  · simp only [remove, hg, if_true]
    have h' : StackedAs { d with windows := (d.windows.filter fun v : Window => v.id ≠ w.id).map (Window.sink w.z) }
        (s.without w.id) := h.remove hw rfl
    exact h'.congr (by simp only [endGesture, lockAll, List.map_map]; rfl)
  · simp only [remove, hg, if_false]
    exact h.remove hw rfl

theorem effect_remove {w : Window} (hw : w ∈ d.windows) : Effect d (d.remove w) none none := by
  have last : ∀ {o : Option WindowId} {id}, o.filter (· ≠ w.id) = some id → o = some id ∧ id ≠ w.id := by
    intro o id h
    obtain ⟨ho, hne⟩ := Option.filter_eq_some_iff.1 h
    exact ⟨ho, by simpa using hne⟩
  have hstacked : ∀ s, d.StackedAs s → (d.remove w).StackedAs (s.without w.id) := fun s h => stackedAs_remove h hw
  -- With the window a gesture on it ends, and the frames are unlocked.
  by_cases hg : d.gesture = some w.id
  · simp only [remove, hg, if_true] at hstacked ⊢
    refine .remove hw ?_ (Page.children_detach d.page w.id) rfl (fun id h => ?_) (fun id h => last h) rfl rfl hstacked
    · exact (entries_lockAll _ false).trans (entries_sink w)
    · cases h
  · simp only [remove, hg, if_false] at hstacked ⊢
    refine .remove hw (entries_sink w) (Page.children_detach d.page w.id) rfl (fun id h => ⟨h, ?_⟩)
      (fun id h => last h) rfl rfl hstacked
    rintro rfl
    exact hg h

theorem does_close (id : WindowId) : Does d (d.close id) none := by
  refine does_onWindow_none fun w hw => ?_
  split
  · exact effect_remove (mem_of_window? hw).1
  · exact effect_refl d

end FloatingPanels.Desktop

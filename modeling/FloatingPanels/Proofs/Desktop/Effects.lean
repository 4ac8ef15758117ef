import FloatingPanels.Proofs.Desktop.Sound
/-!
# What effects have in common

Whatever the effect, numbers are counted up, the live windows keep their containers,
and the tray keeps the order in which windows were hidden.
-/

namespace FloatingPanels.Desktop

variable {d d' : Desktop} {raised : Option WindowId} {added : Option (WindowId × String)}

/-- The live windows with their containers. -/
def homes (d : Desktop) : List (WindowId × String) := d.windows.map fun w => (w.id, w.container)

theorem homes_eq (d : Desktop) : d.homes = d.entries.map fun e => (e.id, e.container) := by
  rw [homes, entries, List.map_map]
  rfl

theorem ids_eq_homes (d : Desktop) : d.ids = d.homes.map Prod.fst := by
  rw [homes, ids, List.map_map]
  rfl

/-- Numbers are counted up, one for each new window. -/
theorem Effect.issued (he : Effect d d' raised added) :
    d'.issued = d.issued + added.toList.length ∧ ∀ a, added = some a → a.1 = ⟨d.issued + 1⟩ := by
  cases he with
  | alike ha => exact ⟨ha.issued, nofun⟩
  | claim _ _ he => exact ⟨he.issued, nofun⟩
  | hide _ _ _ _ he => exact ⟨he.issued, nofun⟩
  | reveal d₁ h₁ _ he => exact ⟨h₁.issued.trans he.issued, nofun⟩
  | add hid _ _ _ _ hi => exact ⟨hi, fun a ha => Option.some.inj ha ▸ hid⟩
  | remove _ _ _ hi => exact ⟨hi, nofun⟩

theorem Edited.homes {id : WindowId} {g : Entry → Entry} (he : Edited d d' id g) (hid : ∀ e, (g e).id = e.id)
    (hcon : ∀ e, (g e).container = e.container) : d'.homes = d.homes := by
  rw [homes_eq, homes_eq, he.entries, List.map_map]
  refine List.map_congr_left fun e _ => ?_
  by_cases h : e.id = id <;> simp [h, hid, hcon]

/-- Where some windows stay and one may come, those that stay are those still live. -/
theorem homes_of_filter (h : Roster d) (p : WindowId × String → Bool) (added : Option (WindowId × String))
    (hh : d'.homes = d.homes.filter p ++ added.toList) (hnew : ∀ a, added = some a → d.isLive a.1 = false) :
    d'.homes = d.homes.filter (fun a => d'.isLive a.1) ++ added.toList := by
  rw [hh]
  refine congrArg (· ++ _) (List.filter_congr fun a ha => ?_)
  have hlive : d.isLive a.1 := isLive_iff_mem_ids.2 (ids_eq_homes d ▸ List.mem_map_of_mem ha)
  rw [Bool.eq_iff_iff, isLive_iff_mem_ids, ids_eq_homes, hh, List.map_append, List.mem_append]
  constructor
  · exact fun hp => .inl (List.mem_map_of_mem (List.mem_filter.2 ⟨ha, hp⟩))
  · -- Numbers are distinct: one that is still there belongs to a window that stayed.
    rintro (hm | hm)
    · obtain ⟨b, hb, hba⟩ := List.mem_map.1 hm
      obtain ⟨hb, hp⟩ := List.mem_filter.1 hb
      rwa [← List.inj_on_of_nodup_map (ids_eq_homes d ▸ h.nodup_ids) hb ha hba]
    · obtain ⟨b, hb, hba⟩ := List.mem_map.1 hm
      have := hnew b (Option.mem_toList.1 hb)
      rw [hba, hlive] at this
      cases this

theorem Effect.homes (he : Effect d d' raised added) (h : Sound d) :
    d'.homes = d.homes.filter (fun a => d'.isLive a.1) ++ added.toList := by
  have keep : d'.homes = d.homes → d'.homes = d.homes.filter (fun a => d'.isLive a.1) ++ [] := fun hh =>
    homes_of_filter h.toRoster (fun _ => true) none (by simpa using hh) nofun
  cases he with
  | alike ha => exact keep (by rw [homes_eq, homes_eq, ha.entries])
  | claim _ _ he => exact keep (he.homes (fun _ => rfl) fun _ => rfl)
  | hide _ _ _ _ he => exact keep (he.homes (fun _ => rfl) fun _ => rfl)
  | reveal d₁ h₁ _ he =>
    refine keep ?_
    rw [homes_eq, h₁.entries, ← homes_eq]
    exact he.homes (fun _ => rfl) fun _ => rfl
  | @add e hid _ _ he =>
    refine homes_of_filter h.toRoster (fun _ => true) (some _) ?_ fun a ha => ?_
    · rw [homes_eq, he, List.map_append, homes_eq, List.filter_true]
      rfl
    · rw [← Option.some.inj ha, hid]
      exact h.isLive_new
  | @remove w _ he =>
    refine homes_of_filter h.toRoster (fun a => a.1 ≠ w.id) none ?_ nofun
    rw [homes_eq, he, homes_eq, List.filter_map, Option.toList_none, List.append_nil]
    rfl

/-- What is live was live before, or has the next new number. -/
theorem Effect.live_before (he : Effect d d' raised added) (h : Sound d) {id : WindowId} (hl : d'.isLive id) :
    d.isLive id ∨ id = ⟨d.issued + 1⟩ := by
  rw [isLive_iff_mem_ids, ids_eq_homes, he.homes h, List.map_append, List.mem_append] at hl
  rcases hl with hl | hl
  · obtain ⟨a, ha, rfl⟩ := List.mem_map.1 hl
    left
    rw [isLive_iff_mem_ids, ids_eq_homes]
    exact List.mem_map_of_mem (List.mem_filter.1 ha).1
  · obtain ⟨a, ha, rfl⟩ := List.mem_map.1 hl
    exact .inr (he.issued.2 a (Option.mem_toList.1 ha))

/-! ## The order of the tray -/

def hiddenIds (d : Desktop) : List WindowId := d.hiddenWindows.map Window.id

theorem mem_hiddenIds {id : WindowId} : id ∈ d.hiddenIds ↔ d.IsHidden id := by
  simp only [hiddenIds, hiddenWindows, IsHidden, entries, List.mem_map, List.mem_filter]
  constructor
  · rintro ⟨w, ⟨hw, hh⟩, rfl⟩
    exact ⟨w.entry, ⟨w, hw, rfl⟩, rfl, hh⟩
  · rintro ⟨e, ⟨w, hw, rfl⟩, hid, hh⟩
    exact ⟨w, ⟨hw, hh⟩, hid⟩

theorem Sound.mem_tray (h : Sound d) {id : WindowId} : id ∈ d.tray.keys ↔ id ∈ d.hiddenIds := by
  rw [h.tray, mem_hiddenIds]

theorem Roster.nodup_hiddenIds (h : Roster d) : d.hiddenIds.Nodup :=
  h.nodup_ids.sublist (List.filter_sublist.map _)

/-- Windows that were hidden, in the order in which they were, and then those that are
hidden now and were not before. -/
def hidingOrder (d d' : Desktop) (l : List WindowId) : List WindowId :=
  l.filter (· ∈ d'.hiddenIds) ++ d'.hiddenIds.filter (· ∉ d.hiddenIds)

/-- Where the tray only loses windows, it loses those that are not hidden any more. -/
theorem tray_of_filter (h : Sound d) (h' : Sound d') {p : WindowId → Bool}
    (ht : d'.tray.keys = d.tray.keys.filter p) : d'.tray.keys = hidingOrder d d' d.tray.keys := by
  have hnone : d'.hiddenIds.filter (· ∉ d.hiddenIds) = [] := by
    refine List.filter_eq_nil_iff.2 fun id hid => ?_
    rw [← h'.mem_tray, ht] at hid
    simpa using h.mem_tray.1 (List.mem_filter.1 hid).1
  rw [hidingOrder, hnone, List.append_nil]
  refine ht.trans (List.filter_congr fun id hid => ?_)
  rw [Bool.eq_iff_iff, decide_eq_true_iff, ← h'.mem_tray, ht, List.mem_filter]
  exact ⟨fun hp => ⟨hid, hp⟩, And.right⟩

/-- Where a window comes to the end of the tray, it is the one that is hidden now. -/
theorem tray_of_append (h : Sound d) (h' : Sound d') {id : WindowId} (ht : d'.tray.keys = d.tray.keys ++ [id]) :
    d'.tray.keys = hidingOrder d d' d.tray.keys := by
  have hid : id ∉ d.tray.keys := (List.nodup_cons.1 (List.nodup_append_comm.1 (ht ▸ h'.trayKeys))).1
  have hmem : ∀ i, i ∈ d'.hiddenIds ↔ i ∈ d.tray.keys ∨ i = id := by
    intro i
    rw [← h'.mem_tray, ht, List.mem_append, List.mem_singleton]
  have hold : d.tray.keys.filter (· ∈ d'.hiddenIds) = d.tray.keys :=
    List.filter_eq_self.2 fun i hi => decide_eq_true ((hmem i).2 (.inl hi))
  have hnew : d'.hiddenIds.filter (· ∉ d.hiddenIds) = [id] := by
    refine List.perm_singleton.1 ((List.perm_ext_iff_of_nodup (h'.nodup_hiddenIds.filter _) (by simp)).2 fun i => ?_)
    rw [List.mem_filter, decide_eq_true_iff, ← h.mem_tray, hmem, List.mem_singleton]
    constructor
    · rintro ⟨hi | hi, hn⟩
      · exact absurd hi hn
      · exact hi
    · rintro rfl
      exact ⟨.inr rfl, hid⟩
  rw [hidingOrder, hold, hnew, ht]

theorem Effect.tray (he : Effect d d' raised added) (h : Sound d) :
    d'.tray.keys = hidingOrder d d' d.tray.keys := by
  have h' := he.sound h
  have keep : d'.tray = d.tray → d'.tray.keys = hidingOrder d d' d.tray.keys := fun ht =>
    tray_of_filter (p := fun _ => true) h h' (by rw [ht, List.filter_true])
  cases he with
  | alike ha => exact keep ha.tray
  | claim _ _ _ _ ht => exact keep ht
  | hide hw hn _ title _ _ ht => exact tray_of_append h h' (ht ▸ h.keys_hide hw hn title)
  | @reveal w d₁ h₁ _ _ _ ht =>
    have hk : d'.tray.keys = d.tray.keys.filter (· ≠ w.id) := by
      rw [h₁.tray, ht]
      exact Keyed.keys_remove w.id d.tray
    exact tray_of_filter h h' hk
  | add _ _ _ _ _ _ _ _ _ ht => exact keep ht
  | remove hw _ _ _ _ _ _ ht => exact tray_of_filter h h' (h.keys_restore hw ht)

end FloatingPanels.Desktop

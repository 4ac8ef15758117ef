import FloatingPanels.Proofs.Desktop.Books
/-!
# Sound books

`Sound` says that the books of a desktop agree with each other: numbers, containers,
addresses, the tray, the gesture and the last creation. It is proved to be kept by
each case of `Effect`, so nothing here looks at an operation again.
-/

namespace FloatingPanels.Desktop

/-- Windows have increasing numbers that have been issued, and each container of the
page lists its own. -/
structure Roster (d : Desktop) : Prop where
  increasing : d.entries.Pairwise fun e e' => e.id.number < e'.id.number
  issued : ∀ e ∈ d.entries, e.id.number ≤ d.issued
  containerKeys : (d.page.children.map Prod.fst).Nodup
  placed : ∀ e ∈ d.entries, e.container ∈ d.page.children.map Prod.fst
  children : ∀ c ∈ d.page.children, c.2 = (d.entries.filter fun e => e.container = c.1).map Entry.id
  gesture : ∀ id, d.gesture = some id → d.isLive id
  lastCreated : ∀ id, d.lastCreated = some id → d.isLive id

/-- Whether the books have a hidden window of this number. -/
def IsHidden (d : Desktop) (id : WindowId) : Prop := ∃ e ∈ d.entries, e.id = id ∧ e.hidden

structure Sound (d : Desktop) : Prop extends Roster d where
  addressKeys : d.addresses.keys.Nodup
  /-- The owner of an address is a window that claimed nothing else since. -/
  addresses : ∀ a ∈ d.addresses, ∃ e ∈ d.entries, e.id = a.2 ∧ e.address = some a.1
  trayKeys : d.tray.keys.Nodup
  tray : ∀ id, id ∈ d.tray.keys ↔ d.IsHidden id
  hides : ∀ e ∈ d.entries, e.hidden → e.hides

variable {d d' : Desktop}

theorem Roster.nodup_ids (h : Roster d) : d.ids.Nodup := by
  rw [ids_eq]
  exact List.pairwise_map.2 (h.increasing.imp fun hlt he => by rw [he] at hlt; exact Nat.lt_irrefl _ hlt)

/-- The entries of a sound desktop are told apart by their numbers. -/
theorem Roster.eq_of_id (h : Roster d) {e e' : Entry} (he : e ∈ d.entries) (he' : e' ∈ d.entries)
    (hid : e.id = e'.id) : e = e' :=
  List.inj_on_of_nodup_map (ids_eq d ▸ h.nodup_ids) he he' hid

/-- The number of the next new window is not in use. -/
theorem Roster.isLive_new (h : Roster d) : d.isLive ⟨d.issued + 1⟩ = false := by
  rw [Bool.eq_false_iff]
  intro hl
  obtain ⟨e, he, hid⟩ := isLive_iff.1 hl
  have := h.issued e he
  rw [hid] at this
  exact Nat.not_succ_le_self _ this

/-- In a sound desktop a window is found by its number. -/
theorem Roster.window?_of_mem (h : Roster d) {w : Window} (hw : w ∈ d.windows) : d.window? w.id = some w := by
  obtain ⟨v, hv⟩ := exists_window (isLive_of_mem hw)
  rw [hv, eq_of_window? h.nodup_ids hv hw rfl]

theorem Names.live {old new : Option WindowId} (h : d.Names old new) (ho : ∀ id, old = some id → d.isLive id) :
    ∀ id, new = some id → d.isLive id := by
  rcases h with rfl | h
  · exact ho
  · exact h

/-! ## Entries changed in place -/

/-- Entries that keep their numbers and containers keep the roster. -/
theorem Roster.map (h : Roster d) {g : Entry → Entry} (hid : ∀ e, (g e).id = e.id)
    (hcon : ∀ e, (g e).container = e.container) (he : d'.entries = d.entries.map g)
    (hp : d'.page.children = d.page.children) (hi : d'.issued = d.issued)
    (hg : d.Names d.gesture d'.gesture) (hl : d.Names d.lastCreated d'.lastCreated) : Roster d' := by
  have live : ∀ id, d.isLive id → d'.isLive id := by
    intro id hid'
    obtain ⟨e, hm, rfl⟩ := isLive_iff.1 hid'
    exact isLive_iff.2 ⟨g e, he ▸ List.mem_map_of_mem hm, hid e⟩
  refine ⟨?_, ?_, ?_, ?_, ?_, fun id hn => live _ (hg.live h.gesture id hn),
    fun id hn => live _ (hl.live h.lastCreated id hn)⟩
  · rw [he]
    exact List.pairwise_map.2 (h.increasing.imp fun hlt => by rwa [hid, hid])
  · intro e hm
    rw [he] at hm
    obtain ⟨e₀, hm₀, rfl⟩ := List.mem_map.1 hm
    rw [hid, hi]
    exact h.issued e₀ hm₀
  · rw [hp]
    exact h.containerKeys
  · intro e hm
    rw [he] at hm
    obtain ⟨e₀, hm₀, rfl⟩ := List.mem_map.1 hm
    rw [hcon, hp]
    exact h.placed e₀ hm₀
  · intro c hc
    rw [hp] at hc
    rw [h.children c hc, he, List.filter_map, List.map_map]
    simp only [Function.comp_def, hid, hcon]

theorem Edited.roster {id : WindowId} {g : Entry → Entry} (he : Edited d d' id g) (h : Roster d)
    (hid : ∀ e, (g e).id = e.id) (hcon : ∀ e, (g e).container = e.container) : Roster d' := by
  refine h.map (g := fun e => if e.id = id then g e else e) (fun e => ?_) (fun e => ?_) he.entries he.children
    he.issued (.inl he.gesture) (.inl he.lastCreated)
  · split
    · exact hid e
    · rfl
  · split
    · exact hcon e
    · rfl

theorem Edited.mem {id : WindowId} {g : Entry → Entry} (he : Edited d d' id g) {e : Entry} :
    e ∈ d'.entries ↔ ∃ e₀ ∈ d.entries, (if e₀.id = id then g e₀ else e₀) = e := by
  rw [he.entries, List.mem_map]

/-- Among the entries of a sound desktop a number decides. -/
theorem Roster.isHidden_iff (h : Roster d) {e : Entry} (he : e ∈ d.entries) : d.IsHidden e.id ↔ e.hidden := by
  constructor
  · rintro ⟨e', he', hid, hh⟩
    rwa [h.eq_of_id he he' hid.symm]
  · exact fun hh => ⟨e, he, rfl, hh⟩

/-- The edited window is hidden if the edit says so, the others as before. -/
theorem Edited.isHidden_iff (h : Roster d) {w : Window} (hw : w ∈ d.windows) {g : Entry → Entry}
    (he : Edited d d' w.id g) (hid : ∀ e, (g e).id = e.id) (i : WindowId) :
    d'.IsHidden i ↔ if i = w.id then (g w.entry).hidden = true else d.IsHidden i := by
  have hm : w.entry ∈ d.entries := List.mem_map_of_mem hw
  by_cases hi : i = w.id
  · -- Only the edited entry has this number, so the edit decides.
    subst hi
    rw [if_pos rfl]
    constructor
    · rintro ⟨e', he', hi, hh⟩
      obtain ⟨e₀, hm₀, rfl⟩ := he.mem.1 he'
      by_cases h₀ : e₀.id = w.id
      · rw [if_pos h₀] at hh
        rwa [← h.eq_of_id hm₀ hm h₀]
      · rw [if_neg h₀] at hi
        exact absurd hi h₀
    · exact fun hh => ⟨g w.entry, he.mem.2 ⟨w.entry, hm, if_pos rfl⟩, hid w.entry, hh⟩
  · rw [if_neg hi]
    constructor
    · rintro ⟨e', he', rfl, hh⟩
      obtain ⟨e₀, hm₀, rfl⟩ := he.mem.1 he'
      by_cases h₀ : e₀.id = w.id
      · rw [if_pos h₀, hid] at hi
        exact absurd h₀ hi
      · rw [if_neg h₀] at hh ⊢
        exact ⟨e₀, hm₀, rfl, hh⟩
    · rintro ⟨e₀, hm₀, rfl, hh⟩
      exact ⟨e₀, he.mem.2 ⟨e₀, hm₀, if_neg hi⟩, rfl, hh⟩

/-! ## One lemma for each case -/

theorem Sound.alike {r : Option WindowId} (h : Sound d) (ha : Alike d d' r) : Sound d' where
  toRoster := h.toRoster.map (g := fun e => e) (fun _ => rfl) (fun _ => rfl) (by rw [ha.entries, List.map_id'])
    ha.children ha.issued ha.gesture ha.lastCreated
  addressKeys := ha.addresses ▸ h.addressKeys
  addresses := by rw [ha.addresses, ha.entries]; exact h.addresses
  trayKeys := ha.tray ▸ h.trayKeys
  tray := by rw [ha.tray]; unfold IsHidden; rw [ha.entries]; exact h.tray
  hides := by rw [ha.entries]; exact h.hides

/-- What a window leaves of the addresses belongs to others. -/
theorem Sound.mem_addressesWithout (h : Sound d) {w : Window} (hw : w ∈ d.windows) {a : String × WindowId}
    (ha : a ∈ d.addressesWithout w) : a ∈ d.addresses ∧ a.2 ≠ w.id := by
  have owner : ∀ b ∈ d.addresses, b.2 = w.id → w.address = some b.1 := by
    intro b hb hid
    obtain ⟨e, he, hei, hea⟩ := h.addresses b hb
    obtain rfl : e = w.entry := h.eq_of_id he (List.mem_map_of_mem hw) (hei.trans hid)
    exact hea
  -- A window owns no address but the one that it claimed last.
  simp only [addressesWithout] at ha
  split at ha
  · rename_i old hold
    split at ha
    · obtain ⟨hm, hne⟩ := List.mem_filter.1 ha
      refine ⟨hm, fun hid => ?_⟩
      rw [owner a hm hid] at hold
      simp [Option.some.inj hold] at hne
    · rename_i hno
      refine ⟨ha, fun hid => hno ?_⟩
      rw [owner a ha hid] at hold
      rw [← Option.some.inj hold, ← hid]
      exact Keyed.value?_of_mem h.addressKeys ha
  · rename_i hnone
    exact ⟨ha, fun hid => by rw [owner a ha hid] at hnone; cases hnone⟩

theorem Sound.nodup_addressesWithout (h : Sound d) (w : Window) : (d.addressesWithout w).keys.Nodup := by
  unfold addressesWithout
  split
  · split
    · exact Keyed.nodup_keys_filter h.addressKeys _
    · exact h.addressKeys
  · exact h.addressKeys

theorem Sound.claim (h : Sound d) {w : Window} (hw : w ∈ d.windows) {address : String}
    (he : Edited d d' w.id fun e => { e with address := some address })
    (ha : d'.addresses = Keyed.set address w.id (d.addressesWithout w)) (ht : d'.tray = d.tray) : Sound d' := by
  have hm : w.entry ∈ d.entries := List.mem_map_of_mem hw
  refine ⟨he.roster h.toRoster (fun _ => rfl) fun _ => rfl, ?_, ?_, ht ▸ h.trayKeys, fun id => ?_, ?_⟩
  · rw [ha]
    exact Keyed.nodup_keys_set (h.nodup_addressesWithout w)
  · intro a hma
    rw [ha] at hma
    rcases Keyed.mem_set (h.nodup_addressesWithout w) hma with rfl | ⟨hma, -⟩
    · exact ⟨_, he.mem.2 ⟨w.entry, hm, if_pos rfl⟩, rfl, rfl⟩
    · obtain ⟨hma, hne⟩ := h.mem_addressesWithout hw hma
      obtain ⟨e, hme, hei, hea⟩ := h.addresses a hma
      exact ⟨e, he.mem.2 ⟨e, hme, if_neg (hei ▸ hne)⟩, hei, hea⟩
  · rw [ht, h.tray, he.isHidden_iff h.toRoster hw fun _ => rfl]
    split
    · rename_i hi
      rw [hi]
      exact h.isHidden_iff hm
    · rfl
  · intro e hme
    obtain ⟨e₀, hm₀, rfl⟩ := he.mem.1 hme
    split
    · exact h.hides e₀ hm₀
    · exact h.hides e₀ hm₀

/-- A window goes into the tray or comes out of it. -/
theorem Sound.hidden (h : Sound d) {w : Window} (hw : w ∈ d.windows) {b : Bool} (hc : b → w.caps.hide)
    (he : Edited d d' w.id fun e => { e with hidden := b }) (ha : d'.addresses = d.addresses)
    (hn : d'.tray.keys.Nodup) (ht : ∀ i, i ∈ d'.tray.keys ↔ if i = w.id then b = true else i ∈ d.tray.keys) :
    Sound d' := by
  have hm : w.entry ∈ d.entries := List.mem_map_of_mem hw
  refine ⟨he.roster h.toRoster (fun _ => rfl) fun _ => rfl, ha ▸ h.addressKeys, ?_, hn, fun i => ?_, ?_⟩
  · intro a hma
    rw [ha] at hma
    obtain ⟨e, hme, hei, hea⟩ := h.addresses a hma
    refine ⟨_, he.mem.2 ⟨e, hme, rfl⟩, ?_⟩
    split
    · exact ⟨hei, hea⟩
    · exact ⟨hei, hea⟩
  · rw [ht, he.isHidden_iff h.toRoster hw (fun _ => rfl), h.tray]
  · intro e hme
    obtain ⟨e₀, hm₀, rfl⟩ := he.mem.1 hme
    split
    · rename_i hi
      rw [h.eq_of_id hm₀ hm hi]
      exact hc
    · exact h.hides e₀ hm₀

theorem Sound.not_mem_tray (h : Sound d) {w : Window} (hw : w ∈ d.windows) (hn : w.mode.isHidden = false) :
    w.id ∉ d.tray.keys := by
  rw [h.tray]
  intro hh
  have := (h.isHidden_iff (List.mem_map_of_mem hw)).1 hh
  exact absurd (hn.symm.trans this) Bool.false_ne_true

/-- A window that is not hidden goes to the end of the tray. -/
theorem Sound.keys_hide (h : Sound d) {w : Window} (hw : w ∈ d.windows) (hn : w.mode.isHidden = false)
    (title : String) : (d.tray.hide w.id title).keys = d.tray.keys ++ [w.id] := by
  rw [Tray.hide, if_neg (by rw [Keyed.hasKey_iff]; exact h.not_mem_tray hw hn)]
  simp [Keyed.keys]

theorem Sound.hide (h : Sound d) {w : Window} (hw : w ∈ d.windows) (hn : w.mode.isHidden = false)
    (hc : w.caps.hide) {title : String} (he : Edited d d' w.id fun e => { e with hidden := true })
    (ha : d'.addresses = d.addresses) (ht : d'.tray = d.tray.hide w.id title) : Sound d' := by
  have hk : d'.tray.keys = d.tray.keys ++ [w.id] := ht ▸ h.keys_hide hw hn title
  refine h.hidden hw (fun _ => hc) he ha ?_ fun i => ?_
  · rw [hk]
    exact (List.nodup_append_comm).2 (List.nodup_cons.2 ⟨h.not_mem_tray hw hn, h.trayKeys⟩)
  · rw [hk, List.mem_append, List.mem_singleton]
    by_cases hi : i = w.id <;> simp [hi]

theorem Sound.reveal (h : Sound d) {w : Window} (hw : w ∈ d.windows)
    (he : Edited d d' w.id fun e => { e with hidden := false })
    (ha : d'.addresses = d.addresses) (ht : d'.tray = d.tray.restore w.id) : Sound d' := by
  have hk : d'.tray.keys = d.tray.keys.filter (· ≠ w.id) := ht ▸ Keyed.keys_remove w.id d.tray
  refine h.hidden hw (by simp) he ha (hk ▸ h.trayKeys.filter _) fun i => ?_
  rw [hk, List.mem_filter]
  by_cases hi : i = w.id <;> simp [hi]

/-! ## Windows that come -/

section Add

variable {e : Entry} (he : d'.entries = d.entries ++ [e])
include he

theorem mem_entries_append {x : Entry} : x ∈ d'.entries ↔ x ∈ d.entries ∨ x = e := by
  rw [he, List.mem_append, List.mem_singleton]

/-- A new window has a number that none has had, so it comes last everywhere. -/
theorem Roster.add (h : Roster d) (hid : e.id = ⟨d.issued + 1⟩) (hc : e.container ∈ d.page.children.map Prod.fst)
    (hp : d'.page.children = d.page.children.map fun c => if c.1 = e.container then (c.1, c.2 ++ [e.id]) else c)
    (hi : d'.issued = d.issued + 1) (hg : d'.gesture = d.gesture) (hl : d'.lastCreated = d.lastCreated) :
    Roster d' := by
  have hlive : ∀ id, d.isLive id → d'.isLive id := by
    intro id hl
    obtain ⟨x, hx, rfl⟩ := isLive_iff.1 hl
    exact isLive_iff.2 ⟨x, (mem_entries_append he).2 (.inl hx), rfl⟩
  have hnames : d'.page.children.map Prod.fst = d.page.children.map Prod.fst := by
    rw [hp, List.map_map]
    refine List.map_congr_left fun c _ => ?_
    by_cases hce : c.1 = e.container <;> simp [hce]
  refine ⟨?_, ?_, hnames ▸ h.containerKeys, ?_, ?_, ?_, ?_⟩
  · rw [he]
    refine List.pairwise_append.2 ⟨h.increasing, List.pairwise_singleton _ _, fun x hx y hy => ?_⟩
    rw [List.mem_singleton.1 hy, hid]
    exact Nat.lt_succ_of_le (h.issued x hx)
  · intro x hx
    rw [hi]
    rcases (mem_entries_append he).1 hx with hx | rfl
    · exact Nat.le_succ_of_le (h.issued x hx)
    · exact Nat.le_of_eq (congrArg WindowId.number hid)
  · intro x hx
    rw [hnames]
    rcases (mem_entries_append he).1 hx with hx | rfl
    · exact h.placed x hx
    · exact hc
  · -- The new entry is the last, so its number comes last in its container.
    intro c hcm
    rw [hp] at hcm
    obtain ⟨c₀, hc₀, rfl⟩ := List.mem_map.1 hcm
    rw [he, List.filter_append, List.map_append]
    by_cases hce : c₀.1 = e.container
    · rw [if_pos hce, h.children c₀ hc₀]
      simp [hce]
    · rw [if_neg hce, h.children c₀ hc₀]
      simp [Ne.symm hce]
  · intro id hgid
    exact hlive id (h.gesture id (hg ▸ hgid))
  · intro id hlid
    exact hlive id (h.lastCreated id (hl ▸ hlid))

theorem Sound.add (h : Sound d) (hr : Roster d') (hh : e.hidden = false)
    (ha : d'.addresses = match e.address with
      | some a => Keyed.set a e.id d.addresses
      | none => d.addresses)
    (ht : d'.tray = d.tray) : Sound d' := by
  refine ⟨hr, ?_, ?_, ht ▸ h.trayKeys, fun i => ?_, ?_⟩
  · rw [ha]
    split
    · exact Keyed.nodup_keys_set h.addressKeys
    · exact h.addressKeys
  · intro a hma
    rw [ha] at hma
    have old : a ∈ d.addresses → ∃ x ∈ d'.entries, x.id = a.2 ∧ x.address = some a.1 := by
      intro hma
      obtain ⟨x, hx, hxi⟩ := h.addresses a hma
      exact ⟨x, (mem_entries_append he).2 (.inl hx), hxi⟩
    split at hma
    · rename_i address hadd
      rcases Keyed.mem_set h.addressKeys hma with rfl | ⟨hma, -⟩
      · exact ⟨e, (mem_entries_append he).2 (.inr rfl), rfl, hadd⟩
      · exact old hma
    · exact old hma
  · rw [ht, h.tray]
    constructor
    · rintro ⟨x, hx, hxi⟩
      exact ⟨x, (mem_entries_append he).2 (.inl hx), hxi⟩
    · rintro ⟨x, hx, hxi, hxh⟩
      rcases (mem_entries_append he).1 hx with hx | rfl
      · exact ⟨x, hx, hxi, hxh⟩
      · rw [hh] at hxh
        cases hxh
  · intro x hx hxh
    rcases (mem_entries_append he).1 hx with hx | rfl
    · exact h.hides x hx hxh
    · rw [hh] at hxh
      cases hxh

end Add

/-! ## Windows that go -/

section Remove

variable {w : Window} (he : d'.entries = d.entries.filter fun e => e.id ≠ w.id)
include he

theorem mem_entries_filter {x : Entry} : x ∈ d'.entries ↔ x ∈ d.entries ∧ x.id ≠ w.id := by
  rw [he, List.mem_filter, decide_eq_true_iff]

theorem Roster.remove (h : Roster d)
    (hp : d'.page.children = d.page.children.map fun c => (c.1, c.2.filter (· ≠ w.id)))
    (hi : d'.issued = d.issued) (hg : ∀ id, d'.gesture = some id → d.gesture = some id ∧ id ≠ w.id)
    (hl : ∀ id, d'.lastCreated = some id → d.lastCreated = some id ∧ id ≠ w.id) : Roster d' := by
  have hlive : ∀ id, d.isLive id → id ≠ w.id → d'.isLive id := by
    intro id hl hne
    obtain ⟨x, hx, rfl⟩ := isLive_iff.1 hl
    exact isLive_iff.2 ⟨x, (mem_entries_filter he).2 ⟨hx, hne⟩, rfl⟩
  have hnames : d'.page.children.map Prod.fst = d.page.children.map Prod.fst := by
    rw [hp, List.map_map]
    rfl
  refine ⟨?_, ?_, hnames ▸ h.containerKeys, ?_, ?_, ?_, ?_⟩
  · rw [he]
    exact h.increasing.filter _
  · intro x hx
    rw [hi]
    exact h.issued x ((mem_entries_filter he).1 hx).1
  · intro x hx
    rw [hnames]
    exact h.placed x ((mem_entries_filter he).1 hx).1
  · -- By container and then without the window, or the other way round.
    intro c hcm
    rw [hp] at hcm
    obtain ⟨c₀, hc₀, rfl⟩ := List.mem_map.1 hcm
    rw [h.children c₀ hc₀, he, List.filter_map, List.filter_filter, List.filter_filter]
    simp only [Function.comp_def, Bool.and_comm]
  · intro id hgid
    exact hlive id (h.gesture id (hg id hgid).1) (hg id hgid).2
  · intro id hlid
    exact hlive id (h.lastCreated id (hl id hlid).1) (hl id hlid).2

omit he in
/-- A window that is not in the tray is not taken out of it either. -/
theorem Sound.keys_restore (h : Sound d) (hw : w ∈ d.windows)
    (ht : d'.tray = if w.mode.isHidden then d.tray.restore w.id else d.tray) :
    d'.tray.keys = d.tray.keys.filter (· ≠ w.id) := by
  rw [ht]
  split
  · exact Keyed.keys_remove w.id d.tray
  · rename_i hn
    refine (List.filter_eq_self.2 fun i hik => ?_).symm
    rw [decide_eq_true_iff]
    rintro rfl
    exact h.not_mem_tray hw (by simpa using hn) hik

theorem Sound.remove (h : Sound d) (hw : w ∈ d.windows) (hr : Roster d')
    (ha : d'.addresses = d.addresses.filter fun e => e.2 ≠ w.id)
    (ht : d'.tray = if w.mode.isHidden then d.tray.restore w.id else d.tray) : Sound d' := by
  have hkeys := h.keys_restore hw ht
  refine ⟨hr, ?_, ?_, hkeys ▸ h.trayKeys.filter _, fun i => ?_, ?_⟩
  · rw [ha]
    exact Keyed.nodup_keys_filter h.addressKeys _
  · intro a hma
    rw [ha, List.mem_filter, decide_eq_true_iff] at hma
    obtain ⟨x, hx, hxi, hxa⟩ := h.addresses a hma.1
    exact ⟨x, (mem_entries_filter he).2 ⟨hx, hxi ▸ hma.2⟩, hxi, hxa⟩
  · rw [hkeys, List.mem_filter, h.tray, decide_eq_true_iff]
    constructor
    · rintro ⟨⟨x, hx, rfl, hxh⟩, hne⟩
      exact ⟨x, (mem_entries_filter he).2 ⟨hx, hne⟩, rfl, hxh⟩
    · rintro ⟨x, hx, rfl, hxh⟩
      obtain ⟨hx, hne⟩ := (mem_entries_filter he).1 hx
      exact ⟨⟨x, hx, rfl, hxh⟩, hne⟩
  · intro x hx
    exact h.hides x ((mem_entries_filter he).1 hx).1

end Remove

/-- Whatever an operation does to sound books, they stay sound. -/
theorem Effect.sound {r : Option WindowId} {added : Option (WindowId × String)} (he : Effect d d' r added)
    (h : Sound d) : Sound d' := by
  cases he with
  | alike ha => exact h.alike ha
  | claim hw address he ha ht => exact h.claim hw he ha ht
  | hide hw hn hc title he ha ht => exact h.hide hw hn hc he ha ht
  | reveal d₁ h₁ hw he ha ht => exact (h.reveal hw he ha ht).alike h₁
  | add hid hh hc he hp hi hg hl ha ht _ =>
    exact Sound.add he h (Roster.add he h.toRoster hid hc hp hi hg hl) hh ha ht
  | remove hw he hp hi hg hl ha ht _ =>
    exact Sound.remove he h hw (Roster.remove he h.toRoster hp hi hg hl) ha ht

end FloatingPanels.Desktop

import FloatingPanels.Proofs.Run
/-!
# Integrity

Windows, containers, addresses, subscriptions and the tray name each other by numbers,
and they are kept in step by every operation. `run_integrity` says so for every moment
of every run: what a container lists, an address or a subscription names, the tray
shows, or the gesture and the last creation refer to is live, and nothing is missing or
there twice.
-/

namespace FloatingPanels

/-! ## Where a run begins -/

theorem Desktop.IsNew.sound {d : Desktop} (h : d.IsNew) : d.Sound := by
  have he : d.entries = [] := by rw [Desktop.entries, h.windows, List.map_nil]
  have hnone : ∀ e, e ∉ d.entries := by
    intro e hm
    rw [he] at hm
    cases hm
  refine ⟨⟨?_, fun e hm => absurd hm (hnone e), ?_, fun e hm => absurd hm (hnone e), ?_, ?_, ?_⟩, ?_, ?_, ?_, ?_,
    fun e hm => absurd hm (hnone e)⟩
  · rw [he]
    exact .nil
  · rw [Page.children_names]
    exact h.page.names
  · intro c hc
    obtain ⟨e, hm, rfl⟩ := List.mem_map.1 hc
    rw [he]
    exact h.page.empty e hm
  · intro id hid
    rw [h.gesture] at hid
    cases hid
  · intro id hid
    rw [h.lastCreated] at hid
    cases hid
  · rw [h.addresses]
    exact .nil
  · intro a ha
    rw [h.addresses] at ha
    cases ha
  · rw [h.tray]
    exact .nil
  · intro id
    rw [h.tray]
    constructor
    · intro hid
      cases hid
    · rintro ⟨e, hm, -⟩
      exact absurd hm (hnone e)

section

variable {d₀ d d' : Desktop} {m m' : Machine} {ms : List Machine}

theorem run_sound (h₀ : d₀.IsNew) (h : Run d₀ (m :: ms)) : m.desktop.Sound :=
  h.inv (fun _ => h₀.sound) fun _ _ hn hs => (Machine.next_desktop hn hs).sound hs

/-! ## Registrations -/

/-- The windows that a run has registered, in turn, with the containers that they were
created into. -/
def registrations : List Machine → List (WindowId × String) :=
  Run.trace (fun m _ l => l ++ m.registered?.toList) []

/-- The live windows are among those registered, and no number was given twice. -/
structure Registered (d : Desktop) (l : List (WindowId × String)) : Prop where
  homes : d.homes = l.filter fun r => d.isLive r.1
  nodup : (l.map Prod.fst).Nodup
  issued : ∀ r ∈ l, r.1.number ≤ d.issued

theorem Registered.next {l : List (WindowId × String)} {raised : Option WindowId} {added : Option (WindowId × String)}
    (h : Registered d l) (hs : d.Sound) (he : d.Effect d' raised added) : Registered d' (l ++ added.toList) := by
  obtain ⟨hissued, hadded⟩ := he.issued
  have hnew : ∀ a ∈ added.toList, a.1 = ⟨d.issued + 1⟩ := fun a ha => hadded a (Option.mem_toList.1 ha)
  have hhomes := he.homes hs
  have hlive : ∀ a ∈ added.toList, d'.isLive a.1 := by
    intro a ha
    rw [Desktop.isLive_iff_mem_ids, Desktop.ids_eq_homes, hhomes, List.map_append]
    exact List.mem_append_right _ (List.mem_map_of_mem ha)
  -- The new number is not among those registered, so what is live of them was before.
  have hold : ∀ r ∈ l, d'.isLive r.1 → d.isLive r.1 := by
    intro r hr hl
    refine (he.live_before hs hl).resolve_right fun hid => ?_
    have := h.issued r hr
    rw [hid] at this
    exact Nat.not_succ_le_self _ this
  refine ⟨?_, ?_, ?_⟩
  · rw [hhomes, h.homes, List.filter_append, List.filter_filter, List.filter_eq_self.2 hlive]
    refine congrArg (· ++ _) (List.filter_congr fun r hr => ?_)
    rw [Bool.eq_iff_iff, Bool.and_eq_true]
    exact ⟨And.left, fun hl => ⟨hl, hold r hr hl⟩⟩
  · rw [List.map_append]
    refine List.nodup_append.2 ⟨h.nodup, ?_, ?_⟩
    · cases added with
      | none => exact .nil
      | some a => exact List.nodup_singleton _
    · intro i hi j hj hij
      obtain ⟨r, hr, rfl⟩ := List.mem_map.1 hi
      obtain ⟨a, ha, rfl⟩ := List.mem_map.1 hj
      have := h.issued r hr
      rw [hij, hnew a ha] at this
      exact Nat.not_succ_le_self _ this
  · intro r hr
    rw [hissued]
    rcases List.mem_append.1 hr with hr | hr
    · exact Nat.le_add_right_of_le (h.issued r hr)
    · rw [hnew r hr]
      exact Nat.add_le_add_left (List.length_pos_of_mem hr) _

theorem run_registered (h₀ : d₀.IsNew) (h : Run d₀ (m :: ms)) : Registered m.desktop (registrations (m :: ms)) := by
  have hinv := h.trace_inv (f := fun m _ l => l ++ m.registered?.toList) (b := [])
    (P := fun m l => m.desktop.Sound ∧ Registered m.desktop l) (fun p => ⟨h₀.sound, ?_, .nil, nofun⟩) ?_
  · exact hinv.2
  · simp [Desktop.homes, Machine.start, Machine.desktop, h₀.windows]
  · rintro m m' l hn ⟨hs, hl⟩
    have he := Machine.next_desktop hn hs
    exact ⟨he.sound hs, hl.next hs he⟩

/-! ## Subscriptions -/

theorem subscribed_next (h : Machine.SessionStep m m')
    (hl : ∀ l, m.session.switchboard.has l → m.desktop.isLive l.id) :
    ∀ l, m'.session.switchboard.has l → m'.desktop.isLive l.id := by
  intro l hh
  rw [Switchboard.has_eq] at hh
  have old : (m.session.switchboard.handler? l).isSome → m.desktop.isLive l.id := fun hh =>
    hl l (by rwa [Switchboard.has_eq])
  cases h with
  | operate _ hs _ =>
    rw [hs, Session.withDesktop, Switchboard.handler?_forget] at hh
    split at hh
    · cases hh
    · -- The handlers of windows that an operation has removed are gone.
      rename_i hgone
      by_contra hdead
      refine hgone (List.mem_filter.2 ⟨Desktop.isLive_iff_mem_ids.1 (old hh), ?_⟩)
      simpa using hdead
  | subscribe k handler _ hlive hd hs _ =>
    rw [hs, Switchboard.handler?_subscribe] at hh
    rw [hd]
    split at hh
    · rename_i hk
      exact hk ▸ hlive
    · exact old hh
  | unsubscribe k _ hd hs _ =>
    rw [hs, Switchboard.handler?_unsubscribe] at hh
    rw [hd]
    split at hh
    · cases hh
    · exact old hh
  | take k handler _ hd hs =>
    rw [(Switchboard.take?_eq_some hs).2.2] at hh
    rw [hd]
    split at hh
    · cases hh
    · exact old hh
  | restore k handler _ hd hs =>
    rw [hs] at hh
    rw [hd]
    rcases Switchboard.handler?_restore m.session.switchboard m.desktop k l handler with he | ⟨rfl, hlive⟩
    · exact old (he ▸ hh)
    · exact hlive

theorem run_subscribed (h : Run d₀ (m :: ms)) : ∀ l, m.session.switchboard.has l → m.desktop.isLive l.id := by
  have hinv := h.inv (P := fun m => (m.isStopped → m.stack = []) ∧
    ∀ l, m.session.switchboard.has l → m.desktop.isLive l.id) (fun p => ⟨fun _ => rfl, nofun⟩) ?_
  · exact hinv.2
  · rintro m m' hn ⟨hstop, hl⟩
    exact ⟨Machine.next_stopped hn hstop, subscribed_next (Machine.next_session hn hstop) hl⟩

/-! ## The tray -/

/-- The windows that are hidden, in the order in which a run has hidden them. -/
def hidings : List Machine → List WindowId :=
  Run.trace (fun m m' l => Desktop.hidingOrder m.desktop m'.desktop l) []

theorem run_tray (h₀ : d₀.IsNew) (h : Run d₀ (m :: ms)) : m.desktop.tray.keys = hidings (m :: ms) := by
  have hinv := h.trace_inv (f := fun m m' l => Desktop.hidingOrder m.desktop m'.desktop l) (b := [])
    (P := fun m l => m.desktop.Sound ∧ m.desktop.tray.keys = l) (fun p => ⟨h₀.sound, ?_⟩) ?_
  · exact hinv.2
  · simp [Machine.start, Machine.desktop, h₀.tray, Keyed.keys]
  · rintro m m' l hn ⟨hs, rfl⟩
    have he := Machine.next_desktop hn hs
    exact ⟨he.sound hs, he.tray hs⟩

/-! ## All together -/

/-- What has to agree at a moment, given the windows registered until then with their
containers, and those hidden in the order in which they were. -/
structure Integrity (m : Machine) (registered : List (WindowId × String)) (hidden : List WindowId) : Prop where
  /-- A container lists the live windows created into it, in the order of their numbers. -/
  children : ∀ e ∈ m.desktop.page.containers,
    e.2.children = (registered.filter fun r => r.2 = e.1 && m.desktop.isLive r.1).map Prod.fst
  increasing : ∀ e ∈ m.desktop.page.containers, e.2.children.Pairwise fun i j => i.number < j.number
  /-- A live window is attached in one container. -/
  attached : ∀ id, m.desktop.isLive id → ∃! e, e ∈ m.desktop.page.containers ∧ id ∈ e.2.children
  byAddress : ∀ a id, m.desktop.byAddress a = some id → ∃ w, m.desktop.window? id = some w ∧ w.address = some a
  subscribed : ∀ l, m.session.switchboard.has l → m.desktop.isLive l.id
  tray : m.desktop.tray.keys = hidden
  nodup_tray : m.desktop.tray.keys.Nodup
  mem_tray : ∀ id, id ∈ m.desktop.tray.keys ↔ ∃ w, m.desktop.window? id = some w ∧ w.mode.isHidden
  gesture : ∀ id, m.desktop.gesture = some id → m.desktop.isLive id
  lastCreated : ∀ id, m.desktop.lastCreated = some id → m.desktop.isLive id
  /-- No number was given to two windows. -/
  nodup_registered : (registered.map Prod.fst).Nodup

theorem children_eq (h : d.Roster) {e : String × Container} (he : e ∈ d.page.containers) :
    e.2.children = (d.entries.filter fun x => x.container = e.1).map Entry.id :=
  h.children (e.1, e.2.children) (List.mem_map_of_mem he)

theorem children_of_homes (h : d.Roster) {e : String × Container} (he : e ∈ d.page.containers) :
    e.2.children = (d.homes.filter fun r => r.2 = e.1).map Prod.fst := by
  rw [children_eq h he, Desktop.homes_eq, List.filter_map, List.map_map]
  rfl

/-- With distinct numbers and containers, a live window is listed in its own container
alone. -/
theorem existsUnique_container (h : d.Roster) {id : WindowId} (hl : d.isLive id) :
    ∃! e, e ∈ d.page.containers ∧ id ∈ e.2.children := by
  obtain ⟨x, hx, rfl⟩ := Desktop.isLive_iff.1 hl
  have mem : ∀ e ∈ d.page.containers, x.id ∈ e.2.children ↔ x.container = e.1 := by
    intro e he
    rw [children_eq h he]
    constructor
    · intro hm
      obtain ⟨y, hy, hid⟩ := List.mem_map.1 hm
      obtain ⟨hy, hc⟩ := List.mem_filter.1 hy
      rw [← h.eq_of_id hy hx hid]
      exact of_decide_eq_true hc
    · exact fun hc => List.mem_map_of_mem (List.mem_filter.2 ⟨hx, decide_eq_true hc⟩)
  have hplaced := h.placed x hx
  rw [Page.children_names] at hplaced
  obtain ⟨e, he, hname⟩ := List.mem_map.1 hplaced
  refine ⟨e, ⟨he, (mem e he).2 hname.symm⟩, fun e' ⟨he', hm⟩ => ?_⟩
  have hkeys : d.page.containers.keys.Nodup := Page.children_names d.page ▸ h.containerKeys
  exact List.inj_on_of_nodup_map hkeys he' he (((mem e' he').1 hm).symm.trans hname.symm)

/-- At every moment of every run, also between two requests of a hook, a callback or a
handler, all that names windows agrees with the windows there are. -/
theorem run_integrity (h₀ : d₀.IsNew) (h : Run d₀ (m :: ms)) :
    Integrity m (registrations (m :: ms)) (hidings (m :: ms)) := by
  have hs := run_sound h₀ h
  have hr := run_registered h₀ h
  have hchildren : ∀ e ∈ m.desktop.page.containers, e.2.children =
      ((registrations (m :: ms)).filter fun r => r.2 = e.1 && m.desktop.isLive r.1).map Prod.fst := by
    intro e he
    rw [children_of_homes hs.toRoster he, hr.homes, List.filter_filter]
  refine ⟨hchildren, ?_, fun id hl => existsUnique_container hs.toRoster hl, ?_, run_subscribed h, run_tray h₀ h,
    hs.trayKeys, ?_, hs.gesture, hs.lastCreated, hr.nodup⟩
  · intro e he
    rw [children_eq hs.toRoster he]
    exact List.pairwise_map.2 (hs.increasing.filter _)
  · intro a id ha
    obtain ⟨x, hx, hid, hadd⟩ := hs.addresses _ (Keyed.mem_of_value? ha)
    obtain ⟨w, hw, rfl⟩ := List.mem_map.1 hx
    exact ⟨w, (show w.id = id from hid) ▸ hs.window?_of_mem hw, hadd⟩
  · intro id
    rw [hs.tray]
    constructor
    · rintro ⟨x, hx, hid, hh⟩
      obtain ⟨w, hw, rfl⟩ := List.mem_map.1 hx
      exact ⟨w, (show w.id = id from hid) ▸ hs.window?_of_mem hw, hh⟩
    · rintro ⟨w, hw, hh⟩
      exact ⟨w.entry, List.mem_map_of_mem (Desktop.mem_of_window? hw).1, (Desktop.mem_of_window? hw).2, hh⟩

end

/-- A host that creates two windows at the same time, of which one hides itself in its
construction hook, and then hides the other. -/
def hideTwice : Program :=
  .create [.passive { kind := "note" }, .mk { kind := "note" } (fun id => .then_ (.hide id) .accept) fun _ => .accept]
    fun _ => .then_ (.hide ⟨1⟩) .accept

theorem run_integrity_hideTwice :
    Desktop.plain.IsNew ∧
      Integrity (Machine.step^[20] (.start { desktop := .plain } hideTwice))
        (registrations (Machine.moments (.start { desktop := .plain } hideTwice) 20))
        (hidings (Machine.moments (.start { desktop := .plain } hideTwice) 20)) ∧
      hidings (Machine.moments (.start { desktop := .plain } hideTwice) 20) = [⟨2⟩, ⟨1⟩] :=
  ⟨Desktop.isNew_plain, run_integrity Desktop.isNew_plain (Run.moments hideTwice 20), by decide +kernel⟩

end FloatingPanels

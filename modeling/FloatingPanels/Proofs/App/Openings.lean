import FloatingPanels.Proofs.App.Panels
import FloatingPanels.Proofs.Desktop.Company
/-!
# Opening panels

To open a panel adds one window on top of all others, with all that belongs to the panel
(`openPanel_adds`). Only a window about the program makes way for one that is there
already: it is gone before anyone sees it, and the other is on top (`openPanel_yields`).
-/

namespace FloatingPanels

namespace Desktop

variable {d d' : Desktop} {w : Window} {ws : List Window} {p : Panel} {claimed : Option String}

/-- The owners of addresses, after a window has claimed this one. -/
def addressesWith (d : Desktop) (claimed : Option String) (id : WindowId) : Keyed String WindowId :=
  match claimed with
  | some address => Keyed.set address id d.addresses
  | none => d.addresses

/-- A panel has come to a desktop, on top of all others. -/
structure Grows (d d' : Desktop) (p : Panel) (claimed : Option String) (w : Window) : Prop where
  windows : d'.windows = d.windows ++ [w]
  id : w.id = ⟨d.issued + 1⟩
  z : w.z = d.windows.length + 1
  kind : w.kind = p.kind
  address : w.address = claimed
  /-- Notes are written into while they are opened. -/
  content : w.frame.Holds p.tree ∨ p ≠ .apps
  addresses : d'.addresses = d.addressesWith claimed w.id
  chrome : d'.chrome = d.chrome
  resolve : ∀ requested, d'.page.resolve requested = d.page.resolve requested
  library : d'.library.Stocked

theorem isLive_of_windows (h : d'.windows = d.windows ++ ws) {i : WindowId} (hi : d.isLive i) : d'.isLive i := by
  rw [isLive_iff_mem_ids, ids, h, List.map_append, List.mem_append]
  exact .inl (isLive_iff_mem_ids.1 hi)

theorem Grows.isLive (h : Grows d d' p claimed w) : d'.isLive w.id :=
  isLive_of_mem (by rw [h.windows]; simp)

theorem Grows.isLive_new (h : Grows d d' p claimed w) (hs : d.Sound) : d.isLive w.id = false :=
  h.id ▸ hs.isLive_new

theorem Grows.window?_new (h : Grows d d' p claimed w) (hs : d.Sound) : d.window? w.id = none := by
  simpa [Desktop.isLive] using h.isLive_new hs

theorem Grows.window? (h : Grows d d' p claimed w) (hs : d.Sound) : d'.window? w.id = some w := by
  rw [window?_append h.windows (h.window?_new hs), if_pos rfl]

/-- The new window is changed in its place. -/
theorem Grows.change (h : Grows d d' p claimed w) (hs : d.Sound) {f : Window → Window} {claimed' : Option String}
    (hid : (f w).id = w.id) (hz : (f w).z = w.z) (hkind : (f w).kind = w.kind) (haddress : (f w).address = claimed')
    (hframe : (f w).frame = w.frame ∨ p ≠ .apps) {d₂ : Desktop} (hw : d₂.windows = (d'.change w.id f).windows)
    (ha : d₂.addresses = d.addressesWith claimed' w.id)
    (hc : d₂.chrome = d'.chrome) (hp : d₂.page = d'.page) (hl : d₂.library = d'.library) :
    Grows d d₂ p claimed' (f w) := by
  have hold : ∀ v ∈ d.windows, v.id ≠ w.id := by
    intro v hv hvw
    have := isLive_of_mem hv
    rw [hvw, h.isLive_new hs] at this
    cases this
  have hwindows : (d'.change w.id f).windows = d.windows ++ [f w] := by
    rw [Desktop.change, h.windows, List.map_append, List.map_congr_left fun v hv => if_neg (hold v hv), List.map_id']
    simp
  refine ⟨hw.trans hwindows, hid.trans h.id, hz.trans h.z, hkind.trans h.kind, haddress, ?_, hid.symm ▸ ha,
    hc.trans h.chrome, fun r => hp ▸ h.resolve r, hl ▸ h.library⟩
  exact hframe.elim (fun he => he.symm ▸ h.content) .inr

/-! ## Building and completing -/

theorem grows_instantiate {s : Session} (h : s.Furnished) (p : Panel) (cling : Bool) (opened : Nat) :
    ∃ d' w, s.desktop.instantiate (p.creation cling opened).spec = (d', .ok w.id) ∧ Grows s.desktop d' p none w := by
  obtain ⟨container, hcontainer⟩ := h.container
  have htree := h.library.tree p
  have hlibrary := h.library.fragment p.kind
  unfold instantiate
  rw [show s.desktop.page.resolve (p.creation cling opened).spec.parent = some container from hcontainer]
  dsimp only
  rw [show (p.creation cling opened).spec.kind = p.kind from rfl]
  cases hf : s.desktop.library.fragment p.kind with
  | mk library content =>
    rw [hf] at htree hlibrary
    subst htree
    obtain ⟨f, hf, hholds⟩ :=
      newFrame_holds (d := { s.desktop with library }) h.chrome (p.creation cling opened).spec p.tree
    dsimp only
    rw [hf]
    refine ⟨_, newWindow { s.desktop with library } (p.creation cling opened).spec container f, rfl, rfl, rfl, rfl, rfl,
      rfl, .inl hholds, rfl, rfl, fun r => ?_, hlibrary⟩
    exact congrArg (Option.filter · _) (Page.hasKey_map fun e => by split <;> rfl)

theorem Grows.complete (h : Grows d d' p claimed w) (hs : d.Sound) {spec : WindowSpec} (hu : spec.under = none) :
    ∃ d₂ w₂, d'.complete w.id spec = (d₂, .ok w.id) ∧ Grows d d₂ p claimed w₂ ∧ w₂.id = w.id := by
  rw [complete_of_live h.isLive, hu]
  refine ⟨_, { w with constructed := true }, rfl, ?_, rfl⟩
  exact h.change hs (f := Window.completed d'.page none) rfl rfl rfl h.address (.inl rfl) rfl h.addresses rfl rfl rfl

end Desktop

/-! ## Construction hooks -/

namespace Panel

/-- The switchboard with the handler of a panel. -/
def wired (p : Panel) (sw : Switchboard) (id : WindowId) : Switchboard :=
  match p.handler? id with
  | some handler => sw.subscribe ⟨id, refreshTag⟩ handler
  | none => sw

theorem handler?_wired (p : Panel) (sw : Switchboard) (id : WindowId) (l : Line) :
    (p.wired sw id).handler? l =
      if (⟨id, refreshTag⟩ : Line) = l then (p.handler? id).or (sw.handler? l) else sw.handler? l := by
  unfold wired
  cases p.handler? id with
  | some handler => exact sw.handler?_subscribe _ _ _
  | none => rw [Option.none_or, ite_self]

theorem calls_wired (p : Panel) (sw : Switchboard) (id : WindowId) : (p.wired sw id).calls = sw.calls := by
  cases p <;> rfl

/-- What the hook of a window about the program does next, once it knows who has the address. -/
def aboutFound (id : WindowId) : Option WindowId → Program
  | some existing =>
    .act (.bringToFront existing) fun answer =>
      match answer with
      | .refused e => .fail ⟨e.message, []⟩
      | _ => .reject
  | none => .then_ (.setAddress id aboutAddress) .accept

theorem step_aboutHook (d : Desktop) (sw : Switchboard) (id : WindowId) (stack : List Waiting) :
    Machine.step ⟨⟨d, sw⟩, .run (aboutHook id), stack⟩ =
      ⟨⟨d, sw⟩, .run (aboutFound id (d.byAddress aboutAddress)), stack⟩ := rfl

theorem address?_eq_some {p : Panel} {address : String} (h : p.address? = some address) :
    p = .about ∧ address = aboutAddress := by
  cases p with
  | about => exact ⟨rfl, (Option.some.inj h).symm⟩
  | _ => cases h

/-- No other window gets a handler. -/
theorem has_wired {p : Panel} {sw : Switchboard} {id : WindowId} {l : Line} (h : (p.wired sw id).has l) :
    sw.has l ∨ l.id = id := by
  rw [Switchboard.has_eq, handler?_wired] at h
  split at h
  · exact .inr (by rw [← ‹_ = l›])
  · exact .inl ((sw.has_eq l).trans h)

end Panel

section

open Machine

variable {s : Session} {d : Desktop} {p : Panel} {w : Window}
variable (hs : s.desktop.Sound) (hsub : ∀ l, s.switchboard.has l → s.desktop.isLive l.id)

/-- What a hook leaves of a session, with its window, when it accepts. -/
def Panel.Settles (p : Panel) (s : Session) (w : Window) (n : Nat) (m : Machine) : Prop :=
  ∃ d' w', Within n m ⟨⟨d', p.wired s.switchboard w.id⟩, .run .accept, m.stack⟩ ∧
    s.desktop.Grows d' p p.address? w' ∧ w'.id = w.id

theorem Panel.Settles.of_step {n : Nat} {m : Machine} (hm : m.step.stack = m.stack) (h : p.Settles s w n m.step) :
    p.Settles s w (1 + n) m := by
  obtain ⟨d', w', hwithin, hg⟩ := h
  rw [hm] at hwithin
  exact ⟨d', w', (within_step m).trans hwithin, hg⟩

theorem Panel.settles_apps (hg : s.desktop.Grows d .apps none w) (stack : List Waiting) :
    apps.Settles s w 2 ⟨⟨d, s.switchboard⟩, .run (appsHook w.id), stack⟩ := by
  refine .of_step rfl ⟨d, w, ⟨1, Nat.le_refl 1, ?_⟩, hg, rfl⟩
  have hfilter : ((d.library.preset? apps.kind usualPreset).bind fun p => (p.field "filter").text?).getD "" = "all" := by
    rw [hg.library.filter]
    rfl
  have hlook : step ⟨⟨d, s.switchboard⟩, .run (appsHook w.id), stack⟩ =
      ⟨⟨d, s.switchboard⟩, .run (.subscribe w.id refreshTag (counter "all" w.id) fun _ => .accept), stack⟩ := by
    rw [← hfilter]
    rfl
  rw [hlook, Function.iterate_one]
  simp only [step, request, desktop, hg.isLive, if_true]
  rfl

include hsub

theorem Panel.settles_act {action : Action} {w' : Window} (hw : p.wired s.switchboard w.id = s.switchboard)
    (hg : s.desktop.Grows (d.perform action).1 p p.address? w') (hid : w'.id = w.id) (stack : List Waiting) :
    p.Settles s w 1 ⟨⟨d, s.switchboard⟩, .run (.then_ action .accept), stack⟩ := by
  refine ⟨_, w', ⟨1, Nat.le_refl 1, ?_⟩, hg, hid⟩
  rw [hw]
  exact step_act (fun l hl => Desktop.isLive_of_windows hg.windows (hsub l hl)) _

include hs

theorem Panel.settles_notes (hg : s.desktop.Grows d .notes none w) (params : Value) (stack : List Waiting) :
    notes.Settles s w 1 ⟨⟨d, s.switchboard⟩, .run (notesHook params w.id), stack⟩ := by
  have hset : ∀ text, ∃ w', s.desktop.Grows (d.perform (.setContentText w.id "body" text)).1 .notes none w' ∧
      w'.id = w.id := by
    intro text
    show ∃ w', s.desktop.Grows (d.setContentText w.id "body" text).1 .notes none w' ∧ w'.id = w.id
    unfold Desktop.setContentText
    split
    · rename_i frame _
      refine ⟨{ w with frame }, ?_, rfl⟩
      exact hg.change hs (f := fun v => { v with frame }) rfl rfl rfl hg.address (.inr (by decide)) rfl hg.addresses
        rfl rfl rfl
    · exact ⟨w, hg, rfl⟩
  let opened := ((params.field "opened").count?).getD 0
  obtain ⟨w', hg', hid⟩ := hset s!"Scratch space #{opened + 1}."
  exact settles_act hsub rfl hg' hid stack

theorem Panel.settles_about (hg : s.desktop.Grows d .about none w) (hn : s.desktop.byAddress aboutAddress = none)
    (stack : List Waiting) : about.Settles s w 2 ⟨⟨d, s.switchboard⟩, .run (aboutHook w.id), stack⟩ := by
  have hnone : d.byAddress aboutAddress = none :=
    (congrArg (fun l => Keyed.value? l aboutAddress) hg.addresses).trans hn
  have haddress : s.desktop.Grows (d.perform (.setAddress w.id aboutAddress)).1 .about (some aboutAddress)
      { w with address := some aboutAddress } := by
    have hset : (d.perform (.setAddress w.id aboutAddress)).1 =
        { (d.change w.id fun v => { v with address := some aboutAddress }) with
          addresses := Keyed.set aboutAddress w.id d.addresses } := by
      have hwithout : d.addressesWithout w = d.addresses := by
        simp only [Desktop.addressesWithout, hg.address]
      show (d.setAddress w.id aboutAddress).1 = _
      simp only [Desktop.setAddress, hg.window? hs, hwithout]
    rw [hset]
    refine hg.change hs (f := fun v => { v with address := some aboutAddress }) rfl rfl rfl rfl (.inl rfl) rfl ?_
      rfl rfl rfl
    exact congrArg (Keyed.set aboutAddress w.id) hg.addresses
  refine .of_step (n := 1) rfl ?_
  rw [step_aboutHook, hnone]
  exact settles_act hsub rfl haddress rfl stack

/-- The hook of a panel that nothing stands against accepts. -/
theorem Panel.settles (hg : s.desktop.Grows d p none w) (hn : p = .about → s.desktop.byAddress aboutAddress = none)
    (params : Value) (stack : List Waiting) :
    p.Settles s w 2 ⟨⟨d, s.switchboard⟩, .run (p.hook params w.id), stack⟩ := by
  cases p with
  | notes =>
    obtain ⟨d', w', hwithin, hg'⟩ := settles_notes hs hsub hg params stack
    exact ⟨d', w', hwithin.mono (by decide), hg'⟩
  | apps => exact settles_apps hg stack
  | about => exact settles_about hs hsub hg (hn rfl) stack

end

/-! ## A panel more -/

/-- A panel has been opened, with all that belongs to it. -/
structure Session.Opens (s s' : Session) (p : Panel) (w : Window) : Prop where
  grows : s.desktop.Grows s'.desktop p p.address? w
  switchboard : s'.switchboard = p.wired s.switchboard w.id

theorem Session.Opens.furnished {s s' : Session} {p : Panel} {w : Window} (h : s.Opens s' p w) (hf : s.Furnished)
    (hs : s.desktop.Sound) (hsub : ∀ l, s.switchboard.has l → s.desktop.isLive l.id)
    (hn : p = .about → s.desktop.byAddress Panel.aboutAddress = none) : s'.Furnished := by
  have hnew := h.grows.isLive_new hs
  obtain ⟨name, hname⟩ := hf.container
  refine ⟨h.grows.chrome.trans hf.chrome, ⟨name, (h.grows.resolve none).trans hname⟩, h.grows.library, ?_, fun v hv => ?_⟩
  · rw [h.switchboard, Panel.calls_wired]
    exact hf.calls
  rw [h.grows.windows, List.mem_append, List.mem_singleton] at hv
  rcases hv with hv | rfl
  · obtain ⟨q, hq⟩ := hf.windows v hv
    have hne : v.id ≠ w.id := by
      intro hvw
      have := Desktop.isLive_of_mem hv
      rw [hvw, hnew] at this
      cases this
    refine ⟨q, hq.rearranged (.refl v) (fun address ha => ?_) ?_⟩
    · -- Whoever has the address of the new window would have stood against it.
      rw [Desktop.byAddress, h.grows.addresses]
      cases hp : p.address? with
      | none => exact ha
      | some claimed =>
        obtain ⟨rfl, rfl⟩ := Panel.address?_eq_some hp
        rw [Desktop.addressesWith, Keyed.value?_set, if_neg]
        · exact ha
        · rintro rfl
          rw [hn rfl] at ha
          cases ha
    · rw [h.switchboard, Panel.handler?_wired, if_neg]
      exact fun hl => hne (congrArg Line.id hl).symm
  · refine ⟨p, h.grows.kind, h.grows.address, fun address hp => ?_, fun hp => ?_, ?_⟩
    · rw [Desktop.byAddress, h.grows.addresses, hp]
      exact (Keyed.value?_set _ _ _ _).trans (if_pos rfl)
    · subst hp
      exact ⟨_, h.grows.content.resolve_right fun hne => hne rfl⟩
    · have hnone : s.switchboard.handler? ⟨v.id, Panel.refreshTag⟩ = none := by
        rw [← Option.not_isSome_iff_eq_none, ← Switchboard.has_eq]
        intro hhas
        have := hsub _ hhas
        rw [hnew] at this
        cases this
      rw [h.switchboard, Panel.handler?_wired, if_pos rfl, hnone, Option.or_none]

namespace App

open Machine

variable {a : App} {p : Panel}

/-- A program that ends within the limit leaves the session as it does without one. -/
theorem run_of_within {program : Program} {n : Nat} {m : Machine} (h : Within n (.start a.session program) m)
    (hm : m.isStopped) (hn : n ≤ limit a.desktop) : a.run program = { a with session := m.session } := by
  have hr : a.session.run? (limit a.desktop) program = some m.session := run?_of_within h hm hn
  rw [run, hr, Option.getD_some]

/-- What the hook of the panel comes to is what the session is left with. -/
theorem openPanel_of_hook {c : Creation} (hc : c = p.creation a.cling a.desktop.windows.length) {d d' : Desktop}
    {sw : Switchboard} {id : WindowId} {result : Created} {n : Nat} (hbuilt : a.desktop.instantiate c.spec = (d, .ok id))
    (hsub : ∀ l, a.session.switchboard.has l → d.isLive l.id)
    (hhook : Within n ⟨⟨d, a.session.switchboard⟩, .run (c.hook id), [.hook c id ⟨[], [], fun _ => .accept⟩]⟩
      ⟨⟨d', sw⟩, .turn ⟨[.ended result], [], fun _ => .accept⟩, []⟩)
    (hn : n ≤ 12) : (a.openPanel p).session = ⟨d', sw⟩ := by
  have hend := (within_create hbuilt hsub hhook).trans (within_step ⟨⟨d', sw⟩, .run .accept, []⟩)
  subst hc
  show (a.run (.create [p.creation a.cling a.desktop.windows.length] fun _ => .accept)).session = _
  rw [run_of_within hend rfl (by unfold limit; omega)]
  rfl

/-- Opening a panel that nothing stands against adds a window with all that belongs to the panel. -/
theorem openPanel_opens (hf : a.session.Furnished) (hs : a.desktop.Sound)
    (hsub : ∀ l, a.session.switchboard.has l → a.desktop.isLive l.id)
    (hn : p = .about → a.desktop.byAddress Panel.aboutAddress = none) :
    ∃ w, a.session.Opens (a.openPanel p).session p w := by
  obtain ⟨d₁, w₁, hbuilt, hg₁⟩ := Desktop.grows_instantiate hf p a.cling a.desktop.windows.length
  have hhook := Panel.settles hs hsub hg₁ hn (.record [("opened", .int a.desktop.windows.length)])
    [.hook (p.creation a.cling a.desktop.windows.length) w₁.id ⟨[], [], fun _ => .accept⟩]
  -- Of the creation no more than this counts from here on.
  generalize hc : p.creation a.cling a.desktop.windows.length = c at hbuilt hhook
  have hprogram : c.hook w₁.id = p.hook (.record [("opened", .int a.desktop.windows.length)]) w₁.id := hc ▸ rfl
  have hpost : c.post w₁.id = .done (.ok true) := hc ▸ rfl
  have hunder : c.spec.under = none := hc ▸ rfl
  rw [← hprogram] at hhook
  obtain ⟨d₂, w₂, hhook, hg₂, hid₂⟩ := hhook
  obtain ⟨d₃, w₃, hdone, hg₃, hid₃⟩ := hg₂.complete hs hunder
  rw [hid₂] at hdone hid₃
  have hconclude : d₂.concludeHook w₁.id c.spec.kind (.ok true) = (d₂, none) := by
    rw [← hid₂, Desktop.concludeHook_of_live hg₂.isLive]
    rfl
  have hsub₃ : ∀ l, (p.wired a.session.switchboard w₁.id).has l → d₃.isLive l.id := by
    intro l hl
    rcases Panel.has_wired hl with hl | hl
    · exact Desktop.isLive_of_windows hg₃.windows (hsub l hl)
    · rw [hl, ← hid₃]
      exact hg₃.isLive
  have hend := hhook.trans ⟨2, Nat.le_refl 2, iterate_accepted hsub₃ hconclude hpost hdone⟩
  refine ⟨w₃, ?_⟩
  rw [openPanel_of_hook hc.symm hbuilt (fun l hl => Desktop.isLive_of_windows hg₁.windows (hsub l hl)) hend (by decide)]
  exact ⟨hg₃, by rw [hid₃]⟩

end App

/-! ## A panel that is there already -/

/-- Who has an address is a window that claimed it. -/
theorem Desktop.Sound.owner {d : Desktop} (h : d.Sound) {address : String} {i : WindowId}
    (ha : d.byAddress address = some i) : ∃ w ∈ d.windows, w.id = i ∧ w.address = some address := by
  obtain ⟨e, he, hid, haddress⟩ := h.addresses _ (Keyed.mem_of_value? ha)
  obtain ⟨w, hw, rfl⟩ := List.mem_map.1 he
  exact ⟨w, hw, hid, haddress⟩

/-- An attempt to open a panel has raised a window, and that is all. -/
structure Session.Yields (s s' : Session) (i : WindowId) : Prop where
  windows : ∀ w' ∈ s'.desktop.windows, ∃ w ∈ s.desktop.windows, w.Rearranged w'
  cores : ∀ j, s'.desktop.core? j = s.desktop.core? j
  stacked : ∀ st : Stack, s.desktop.StackedAs st → s'.desktop.StackedAs (st.raise (some i))
  chrome : s'.desktop.chrome = s.desktop.chrome
  resolve : ∀ requested, s'.desktop.page.resolve requested = s.desktop.page.resolve requested
  library : s'.desktop.library.Stocked
  byAddress : ∀ address j, s.desktop.byAddress address = some j → s.desktop.isLive j →
    s'.desktop.byAddress address = some j
  switchboard : s'.switchboard = s.switchboard

theorem Session.Yields.furnished {s s' : Session} {i : WindowId} (h : s.Yields s' i) (hf : s.Furnished) :
    s'.Furnished := by
  obtain ⟨name, hname⟩ := hf.container
  refine ⟨h.chrome.trans hf.chrome, ⟨name, (h.resolve none).trans hname⟩, h.library, h.switchboard ▸ hf.calls,
    fun w' hw' => ?_⟩
  obtain ⟨w, hw, hww'⟩ := h.windows w' hw'
  obtain ⟨p, hp⟩ := hf.windows w hw
  refine ⟨p, hp.rearranged hww' (fun address ha => h.byAddress address w.id ha (Desktop.isLive_of_mem hw)) ?_⟩
  rw [h.switchboard]

/-- A window on top is of no account to those below when it goes. -/
theorem Stack.without_raise_append {st : Stack} {new i : WindowId} (hn : new ∉ st) (hi : i ≠ new) :
    Stack.without (Stack.raise (st ++ [new]) (some i)) new = st.raise (some i) := by
  have hold : (st.filter (· ≠ i)).filter (· ≠ new) = st.filter (· ≠ i) :=
    List.filter_eq_self.2 fun v hv => decide_eq_true fun h => hn (h ▸ (List.mem_filter.1 hv).1)
  rw [Stack.raise, Stack.raise, Stack.without, Stack.without, Stack.without, List.filter_append, List.filter_append,
    List.filter_append, hold]
  simp [hi, hi.symm]

theorem Desktop.isLive_raise (d : Desktop) (i j : WindowId) : (d.raise i).1.isLive j = d.isLive j :=
  isLive_of_core? ((d.local_raise i (p := fun _ => False)).spares j not_false)

theorem Desktop.perform_bringToFront {d : Desktop} {i : WindowId} (h : d.isLive i) :
    d.perform (.bringToFront i) = ((d.raise i).1, .flag (d.raise i).2) := by
  obtain ⟨w, hw⟩ := exists_window h
  simp only [perform, bringToFront, onWindow, hw, Answer.ofOutcome]

/-- To raise a window and to discard the new one is to raise that window alone. -/
theorem Desktop.Grows.yields {s : Session} {d : Desktop} {p : Panel} {w : Window} {i : WindowId}
    (hg : s.desktop.Grows d p none w) (hs : s.desktop.Sound) (hi : s.desktop.isLive i) :
    s.Yields ⟨(d.raise i).1.discard w.id, s.switchboard⟩ i := by
  have hnew := hg.isLive_new hs
  have hli : d.isLive i := isLive_of_windows hg.windows hi
  have hne : i ≠ w.id := by
    rintro rfl
    rw [hnew] at hi
    cases hi
  have hraise := d.local_raise i (p := fun _ => False)
  obtain ⟨v, hv⟩ : ∃ v, (d.raise i).1.window? w.id = some v := by
    refine exists_window ?_
    rw [isLive_raise]
    exact hg.isLive
  obtain ⟨hvm, hvid⟩ := mem_of_window? hv
  have hdiscard : (d.raise i).1.discard w.id = (d.raise i).1.remove v := by rw [discard, hv]
  have hcores : ∀ j, ((d.raise i).1.discard w.id).core? j = s.desktop.core? j := by
    intro j
    rw [hdiscard, core?_remove, hvid, hraise.spares j not_false, core?, window?_append hg.windows (hg.window?_new hs)]
    by_cases hj : j = w.id
    · rw [if_pos hj, hj, core?, hg.window?_new hs]
      rfl
    · rw [if_neg hj, if_neg hj]
      rfl
  have hr := (rearranges_raise d i).trans (rearranges_remove (d.raise i).1 v)
  rw [← hdiscard] at hr
  refine ⟨fun w' hw' => ?_, hcores, fun st hst => ?_, hr.chrome.trans hg.chrome,
    fun r => (hr.resolve r).trans (hg.resolve r), hr.library.symm ▸ hg.library, fun address j ha hj => ?_, rfl⟩
  · obtain ⟨u, hu, huw'⟩ := hr.windows w' hw'
    rw [hg.windows, List.mem_append, List.mem_singleton] at hu
    refine ⟨u, hu.resolve_right ?_, huw'⟩
    rintro rfl
    have hl := isLive_of_mem hw'
    rw [huw'.id, isLive_of_core? (hcores u.id), hnew] at hl
    cases hl
  · have hnot : w.id ∉ st := by
      rw [hst.mem, hnew]
      exact Bool.false_ne_true
    have hadd : d.StackedAs (st ++ [w.id]) := hst.add hnew hg.z hg.windows
    have hremove := stackedAs_remove (hadd.raise hli) hvm
    rw [← hdiscard, hvid, Stack.without_raise_append hnot hne] at hremove
    exact hremove
  · have ha' : (d.raise i).1.addresses = s.desktop.addresses := hraise.addresses.trans hg.addresses
    refine (touch_discard (d.raise i).1 w.id).address.byAddress_of_live rfl (ha' ▸ hs.addressKeys) ?_ ?_
    · exact (congrArg (fun l => Keyed.value? l address) ha').trans ha
    · rw [isLive_of_core? (hcores j)]
      exact hj

namespace App

open Machine

variable {a : App} {i : WindowId}

theorem openPanel_yields (hf : a.session.Furnished) (hs : a.desktop.Sound)
    (hsub : ∀ l, a.session.switchboard.has l → a.desktop.isLive l.id)
    (hn : a.desktop.byAddress Panel.aboutAddress = some i) (hi : a.desktop.isLive i) :
    a.session.Yields (a.openPanel .about).session i := by
  obtain ⟨d, w, hbuilt, hg⟩ := Desktop.grows_instantiate hf .about a.cling a.desktop.windows.length
  have hyields := hg.yields hs hi
  have hsub₁ : ∀ l, a.session.switchboard.has l → d.isLive l.id :=
    fun l hl => Desktop.isLive_of_windows hg.windows (hsub l hl)
  have hraise := Desktop.perform_bringToFront (Desktop.isLive_of_windows hg.windows hi)
  generalize hc : Panel.about.creation a.cling a.desktop.windows.length = c at hbuilt
  have hprogram : c.hook w.id = Panel.aboutHook w.id := hc ▸ rfl
  have hnamed : d.byAddress Panel.aboutAddress = some i :=
    (congrArg (fun l => Keyed.value? l Panel.aboutAddress) hg.addresses).trans hn
  -- The hook finds the other window, raises it and rejects.
  have hraising : step^[2] ⟨⟨d, a.session.switchboard⟩, .run (c.hook w.id), [.hook c w.id ⟨[], [], fun _ => .accept⟩]⟩ =
      ⟨⟨(d.raise i).1, a.session.switchboard⟩, .run .reject, [.hook c w.id ⟨[], [], fun _ => .accept⟩]⟩ := by
    rw [Function.iterate_succ_apply, Function.iterate_one, hprogram, Panel.step_aboutHook, hnamed,
      Panel.aboutFound, step_act, hraise]
    rw [hraise]
    exact fun l hl => (d.isLive_raise i l.id).trans (hsub₁ l hl)
  have hdecline : (d.raise i).1.concludeHook w.id c.spec.kind (.ok false) =
      ((d.raise i).1.discard w.id, some (.rejected c.spec.kind)) := by
    rw [Desktop.concludeHook_of_live ((d.isLive_raise i w.id).trans hg.isLive)]
    rfl
  have hdeclined := within_step ⟨⟨(d.raise i).1, a.session.switchboard⟩, .run .reject,
    [.hook c w.id ⟨[], [], fun _ => .accept⟩]⟩
  rw [Program.reject, step_declined (fun l hl => ?_) hdecline] at hdeclined
  · have hhook := (show Within 2 _ _ from ⟨2, Nat.le_refl 2, hraising⟩).trans hdeclined
    rw [openPanel_of_hook hc.symm hbuilt hsub₁ hhook (by decide)]
    exact hyields
  · rw [Desktop.isLive_of_core? (hyields.cores l.id)]
    exact hsub l hl

/-- Whatever the panel, one of the two comes of it. -/
theorem openPanel_cases (hf : a.session.Furnished) (hs : a.desktop.Sound)
    (hsub : ∀ l, a.session.switchboard.has l → a.desktop.isLive l.id) (p : Panel) :
    (p = .about → a.desktop.byAddress Panel.aboutAddress = none) ∧ (∃ w, a.session.Opens (a.openPanel p).session p w) ∨
      p = .about ∧ ∃ i, a.desktop.byAddress Panel.aboutAddress = some i ∧ a.desktop.isLive i ∧
        a.session.Yields (a.openPanel .about).session i := by
  by_cases hp : p = .about
  · subst hp
    cases hn : a.desktop.byAddress Panel.aboutAddress with
    | none => exact .inl ⟨fun _ => rfl, openPanel_opens hf hs hsub fun _ => hn⟩
    | some i =>
      obtain ⟨v, hv, rfl, -⟩ := hs.owner hn
      have hi := Desktop.isLive_of_mem hv
      exact .inr ⟨rfl, v.id, rfl, hi, openPanel_yields hf hs hsub hn hi⟩
  · exact .inl ⟨fun h => absurd h hp, openPanel_opens hf hs hsub fun h => absurd h hp⟩

end App

end FloatingPanels

import FloatingPanels.Proofs.App.History
import FloatingPanels.Proofs.Frame.Usual
import FloatingPanels.Proofs.Touch
/-!
# Windows of panels

Every window of the application is one of three panels, and all that belongs to it is in
its place: the address, the content of the frame and the handler for refreshes. A session
of which this is true is `Furnished`, and it stays so when windows are arranged.
-/

namespace FloatingPanels

/-! ## Content -/

namespace Frame

variable {f : Frame} {e : Element}

/-- A frame in the usual chrome with this content. -/
def Holds (f : Frame) (e : Element) : Prop := ∃ d : Dress, d.frame = f ∧ d.content = .ofElement e

theorem Holds.allow (h : f.Holds e) (caps : Capabilities) : (f.allow caps).Holds e := by
  obtain ⟨d, rfl, hc⟩ := h
  exact ⟨_, (d.allow_frame caps).symm, hc⟩

theorem Holds.setTitle (h : f.Holds e) (title : String) : (f.setTitle title).Holds e := by
  obtain ⟨d, rfl, hc⟩ := h
  exact ⟨_, (d.setTitle_frame title).symm, hc⟩

theorem Holds.lock (h : f.Holds e) (b : Bool) : (f.lock b).Holds e := by
  obtain ⟨d, rfl, hc⟩ := h
  exact ⟨_, (d.lock_frame b).symm, hc⟩

theorem Holds.locks (h : f.Holds e) (bs : List Bool) : (bs.foldl Frame.lock f).Holds e := by
  induction bs generalizing f with
  | nil => exact h
  | cons b bs ih => exact ih (h.lock b)

theorem Holds.content (h : f.Holds e) : f.content = some ⟨"div", [("class", contentClass)], .ofElement e⟩ := by
  obtain ⟨d, rfl, hc⟩ := h
  rw [Dress.content_frame, Dress.slot, hc]

/-- What is changed in the content slot is changed in the frame. -/
theorem Holds.setContentText? (h : f.Holds e) {e' : Element} {name text : String}
    (he : Element.changeClass? ⟨"div", [("class", contentClass)], .ofElement e⟩ name (·.setText text) =
      some ⟨"div", [("class", contentClass)], .ofElement e'⟩) :
    ∃ f', f.setContentText? name text = some f' ∧ f'.Holds e' := by
  obtain ⟨d, rfl, hd⟩ := h
  refine ⟨_, ?_, { d with content := .ofElement e' }, rfl, rfl⟩
  rw [Dress.setContentText?_frame, Dress.slot, hd, he]
  rfl

end Frame

theorem Desktop.newFrame_holds {d : Desktop} (h : d.chrome = Chrome.usual) (spec : WindowSpec) (content : Element) :
    ∃ f, d.newFrame spec content = .ok f ∧ f.Holds content := by
  have hbuilt : (Dress.frame { kind := spec.kind, content := .ofElement content }).Holds content := ⟨_, rfl, rfl⟩
  have hf := (hbuilt.allow spec.caps).setTitle (spec.title.getD spec.kind)
  simp only [newFrame, h, Dress.build_usual]
  split
  · exact ⟨_, rfl, hf.lock true⟩
  · exact ⟨_, rfl, hf⟩

namespace Panel

/-- The content of a panel of applications with this text in its line for the count. -/
def counting (text : String) : Element :=
  ⟨"div", [("class", "apps"), ("width", "24")],
    .element "p" [("class", "count")] (.text text .nil)
      (.element "p" [] (.text "press r to refresh" .nil) .nil)⟩

def tree : Panel → Element
  | notes =>
    ⟨"div", [("class", "notes"), ("width", "28")],
      .element "p" [("class", "body")] (.text "Scratch space." .nil)
        (.element "p" [] (.text "Drag the title, pull an edge." .nil) .nil)⟩
  | apps => counting "no refresh yet"
  | about =>
    ⟨"div", [("class", "about")],
      .element "p" [] (.text "panel-wm" .nil)
        (.element "p" [] (.text "floating panels in a terminal" .nil) .nil)⟩

theorem parse_eq_tree (p : Panel) : Fragment.parse p.markup = .ok p.tree := by
  cases p <;> decide +kernel

theorem kind_injective {p q : Panel} (h : p.kind = q.kind) : p = q := by
  revert h
  cases p <;> cases q <;> decide

end Panel

/-! ## The library -/

namespace Library

/-- To use a template changes no other, nor what it is parsed to. -/
theorem fragment_fragment (l : Library) (kind other : String) :
    ((l.fragment kind).1.fragment other).2 = (l.fragment other).2 := by
  cases ht : l.templates.value? kind with
  | none => simp only [fragment, ht]
  | some t =>
    cases hp : t.parsed with
    | some r => simp only [fragment, ht, hp]
    | none =>
      have hset : (l.fragment kind).1 =
          { l with templates := Keyed.set kind { t with parsed := some (Fragment.parse t.markup) } l.templates } := by
        simp only [fragment, ht, hp]
      rw [hset]
      by_cases ho : kind = other
      · subst ho
        simp only [fragment, ht, hp, Keyed.value?_set, if_true]
      · simp only [fragment, Keyed.value?_set, if_neg ho]
        split
        · rfl
        · split <;> rfl

theorem preset?_fragment (l : Library) (kind other name : String) :
    (l.fragment kind).1.preset? other name = l.preset? other name := by
  unfold fragment
  split
  · rfl
  · split <;> rfl

/-- It has the templates of all panels, and the preset that panels of applications use. -/
structure Stocked (l : Library) : Prop where
  tree : ∀ p : Panel, (l.fragment p.kind).2 = some (.ok p.tree)
  filter : l.preset? Panel.apps.kind Panel.usualPreset = some (.record [("filter", .text "all")])

theorem Stocked.fragment {l : Library} (h : l.Stocked) (kind : String) : (l.fragment kind).1.Stocked :=
  ⟨fun p => (l.fragment_fragment kind p.kind).trans (h.tree p), (l.preset?_fragment _ _ _).trans h.filter⟩

end Library

theorem App.stocked_start (l : CommandLine) (columns rows : Nat) : (start l columns rows).desktop.library.Stocked := by
  constructor
  · intro p
    have hp := p.parse_eq_tree
    cases p <;> exact congrArg some hp
  · rfl

/-! ## Furnished sessions -/

namespace Panel

/-- The handler of a panel of applications. -/
def counter (filter : String) (id : WindowId) : Handler := fun payload _ =>
  let round := ((payload.field "round").count?).getD 0
  .then_ (.setContentText id "count" s!"{filter}: refresh #{round}") .accept

theorem counter_refreshPayload (filter : String) (id : WindowId) (round : Nat) (extra : Value) :
    counter filter id (refreshPayload round) extra =
      .then_ (.setContentText id "count" s!"{filter}: refresh #{round}") .accept := by
  simp [counter, refreshPayload, Value.field, Value.count?]

/-- The address that a panel claims. -/
def address? : Panel → Option String
  | about => some aboutAddress
  | _ => none

/-- The handler of a panel for refreshes. -/
def handler? : Panel → WindowId → Option Handler
  | apps, id => some (counter "all" id)
  | _, _ => none

/-- A window is this panel, with all that belongs to it. -/
structure IsAt (p : Panel) (s : Session) (w : Window) : Prop where
  kind : w.kind = p.kind
  address : w.address = p.address?
  named : ∀ address, p.address? = some address → s.desktop.byAddress address = some w.id
  content : p = .apps → ∃ text, w.frame.Holds (counting text)
  handler : s.switchboard.handler? ⟨w.id, refreshTag⟩ = p.handler? w.id

theorem IsAt.rearranged {p : Panel} {s s' : Session} {w w' : Window} (h : p.IsAt s w) (hw : w.Rearranged w')
    (ha : ∀ address, s.desktop.byAddress address = some w.id → s'.desktop.byAddress address = some w.id)
    (hh : s'.switchboard.handler? ⟨w.id, refreshTag⟩ = s.switchboard.handler? ⟨w.id, refreshTag⟩) : p.IsAt s' w' := by
  refine ⟨hw.kind.trans h.kind, hw.address.trans h.address, fun address hp => ?_, fun hp => ?_, ?_⟩
  · rw [hw.id]
    exact ha address (h.named address hp)
  · obtain ⟨text, htext⟩ := h.content hp
    obtain ⟨locks, hlocks⟩ := hw.frame
    exact ⟨text, hlocks ▸ htext.locks locks⟩
  · rw [hw.id]
    exact hh.trans h.handler

end Panel

/-- All windows are panels, and another panel can be opened. -/
structure Session.Furnished (s : Session) : Prop where
  chrome : s.desktop.chrome = Chrome.usual
  container : ∃ name, s.desktop.page.resolve none = some name
  library : s.desktop.library.Stocked
  /-- No handler is being called. -/
  calls : s.switchboard.calls = []
  windows : ∀ w ∈ s.desktop.windows, ∃ p : Panel, p.IsAt s w

theorem App.furnished_start (l : CommandLine) (columns rows : Nat) : (start l columns rows).session.Furnished :=
  ⟨rfl, ⟨_, rfl⟩, stocked_start l columns rows, rfl, List.forall_mem_nil _⟩

/-! ## Arranging -/

namespace Desktop

variable {d d' : Desktop}

theorem claims_of_arranges {action : Action} (h : action.arranges) : d.claims (.act action) = none := by
  cases action with
  | setAddress id address => cases h
  | _ => rfl

/-- As long as nobody claims it, an address leads to the same live window. -/
theorem AddressStep.byAddress_of_live {c : Option Claim} (h : AddressStep d d' c) (hc : c = none)
    (hn : d.addresses.keys.Nodup) {address : String} {id : WindowId} (ha : d.byAddress address = some id)
    (hl : d'.isLive id) :
    d'.byAddress address = some id := by
  cases h with
  | keep _ he => exact (congrArg (fun l => Keyed.value? l address) he).trans ha
  | claim => cases hc
  | add o he =>
    cases o with
    | some a => cases hc
    | none => exact (congrArg (fun l => Keyed.value? l address) he).trans ha
  | @remove w _ ho he =>
    have hne : id ≠ w.id := by
      rintro rfl
      obtain ⟨v, hv⟩ := exists_window hl
      have hown := ho w.id
      rw [if_pos rfl, own?, hv] at hown
      cases hown
    rw [byAddress, he, Keyed.value?_filter_value hn (fun i => decide (i ≠ w.id))]
    exact (congrArg (Option.filter _) ha).trans (Option.filter_some_pos (decide_eq_true hne))

end Desktop

namespace Session

variable {s : Session}

/-- Handlers of windows that are still live are kept. -/
theorem handler?_withDesktop {d : Desktop} {l : Line} (hl : d.isLive l.id) :
    (s.withDesktop d).switchboard.handler? l = s.switchboard.handler? l := by
  rw [withDesktop, Switchboard.handler?_forget, if_neg]
  intro hm
  simpa [hl] using (List.mem_filter.1 hm).2

theorem Furnished.perform (h : s.Furnished) (hs : s.desktop.Sound) {action : Action} (ha : action.arranges) :
    (s.perform action).1.Furnished := by
  have hr := s.desktop.perform_rearranges ha
  have ht := (s.desktop.touch_perform action).address
  have hd : (s.perform action).1 = s.withDesktop (s.desktop.perform action).1 := rfl
  generalize (s.desktop.perform action).1 = d' at hr ht hd
  rw [hd]
  obtain ⟨name, hname⟩ := h.container
  refine ⟨hr.chrome.trans h.chrome, ⟨name, (hr.resolve none).trans hname⟩, ?_, h.calls, fun w' hw' => ?_⟩
  · exact hr.library.symm ▸ h.library
  · obtain ⟨w, hw, hww'⟩ := hr.windows w' hw'
    obtain ⟨p, hp⟩ := h.windows w hw
    have hl : d'.isLive w.id := hww'.id ▸ Desktop.isLive_of_mem hw'
    refine ⟨p, hp.rearranged hww' (fun address haddress => ?_) (handler?_withDesktop hl)⟩
    exact ht.byAddress_of_live (Desktop.claims_of_arranges ha) hs.addressKeys haddress hl

end Session

end FloatingPanels

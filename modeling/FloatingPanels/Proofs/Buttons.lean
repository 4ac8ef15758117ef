import FloatingPanels.Proofs.Deeds
import FloatingPanels.Proofs.Desktop.Rearranged
import FloatingPanels.Proofs.Frame.Slots
/-!
# The buttons of live windows

The buttons of a window are hidden or not when its frame is built, by its capabilities.
`run_offering` says that it stays so: whatever hosts, panels and users do, in the usual
chrome the buttons of a live window are those that its capabilities allow. After it is
built, a frame is only edited in ways that do not choose buttons, and none of these gets at
a button by accident.
-/

namespace FloatingPanels

/-! ## One frame -/

namespace Frame

/-- A frame in the usual chrome whose buttons are those that the capabilities allow. -/
def Offers (f : Frame) (caps : Capabilities) : Prop :=
  ∃ d : Dress, d.frame = f ∧ d.hidden = fun c => !caps.has c.capability

variable {f : Frame} {caps : Capabilities}

theorem offers_allow (d : Dress) (caps : Capabilities) : (d.frame.allow caps).Offers caps :=
  ⟨_, (d.allow_frame caps).symm, rfl⟩

theorem Offers.shows (h : f.Offers caps) (c : Control) : f.shows c = caps.has c.capability := by
  obtain ⟨d, rfl, hd⟩ := h
  rw [Dress.shows_frame, hd, Bool.not_not]

theorem Offers.mem_controls (h : f.Offers caps) {c : Control} (hc : c ∈ f.controls) : caps.has c.capability := by
  rw [← h.shows]
  exact (List.mem_filter.1 hc).2

/-- Edits that do not choose the buttons leave them alone. -/
theorem Offers.edit (h : f.Offers caps) {e : Edit} (he : e.caps? = none) : (f.edit e).Offers caps := by
  obtain ⟨d, rfl, hd⟩ := h
  refine ⟨d.edit e, (d.edit_frame e).symm, ?_⟩
  rw [Dress.hidden_edit, he]
  exact hd

theorem Offers.edits (h : f.Offers caps) {es : List Edit} (hes : ∀ e ∈ es, e.caps? = none) :
    (f.edits es).Offers caps := by
  induction es generalizing f with
  | nil => exact h
  | cons e es ih =>
    obtain ⟨he, hes⟩ := List.forall_mem_cons.1 hes
    exact ih (h.edit he) hes

end Frame

/-- The same window, whose frame was at most edited in ways that do not choose buttons. -/
structure Window.Retouched (w w' : Window) : Prop where
  id : w'.id = w.id
  frame : ∃ es : List Frame.Edit, (∀ e ∈ es, e.caps? = none) ∧ w'.frame = w.frame.edits es

namespace Window

variable {w w' : Window}

theorem Retouched.one {e : Frame.Edit} (he : e.caps? = none) (hid : w'.id = w.id) (hf : w'.frame = w.frame.edit e) :
    w.Retouched w' := ⟨hid, [e], List.forall_mem_singleton.2 he, hf⟩

theorem Retouched.same (hid : w'.id = w.id) (hf : w'.frame = w.frame) : w.Retouched w' :=
  ⟨hid, [], List.forall_mem_nil _, hf⟩

theorem Rearranged.retouched (h : w.Rearranged w') : w.Retouched w' := by
  obtain ⟨locks, hlocks⟩ := h.frame
  refine ⟨h.id, locks.map .lock, ?_, ?_⟩
  · rintro e he
    obtain ⟨locked, -, rfl⟩ := List.mem_map.1 he
    rfl
  · rw [hlocks, Frame.edits, List.foldl_map]
    rfl

theorem Retouched.refl (w : Window) : w.Retouched w := .same rfl rfl

end Window

/-! ## All windows -/

namespace Desktop

/-- The windows of the second desktop are windows of the first, retouched at most. -/
def Retouches (d d' : Desktop) : Prop := ∀ w' ∈ d'.windows, ∃ w ∈ d.windows, w.Retouched w'

variable {d d' : Desktop}

theorem Retouches.refl (d : Desktop) : Retouches d d := fun w hw => ⟨w, hw, .refl w⟩

theorem Rearranges.retouches (h : Rearranges d d') : Retouches d d' := by
  intro w' hw'
  obtain ⟨w, hw, hww⟩ := h.windows w' hw'
  exact ⟨w, hw, hww.retouched⟩

theorem retouches_same (hw : d'.windows = d.windows) : Retouches d d' := fun w hw' => ⟨w, hw ▸ hw', .refl w⟩

theorem retouches_change {id : WindowId} {f : Window → Window} (hf : ∀ w ∈ d.windows, w.id = id → w.Retouched (f w)) :
    Retouches d (d.change id f) := by
  intro w' hw'
  obtain ⟨w, hw, rfl⟩ := List.mem_map.1 hw'
  refine ⟨w, hw, ?_⟩
  split
  · exact hf w hw ‹_›
  · exact .refl w

theorem retouches_changeFrame {id : WindowId} {f : Frame → Frame} {e : Frame.Edit} (he : e.caps? = none)
    (hf : ∀ g : Frame, f g = g.edit e) : Retouches d (d.changeFrame id f).1 := by
  unfold changeFrame
  split
  · exact retouches_change fun w _ _ => .one he rfl (hf w.frame)
  · exact .refl d

theorem retouches_setContentText (hs : Sound d) (id : WindowId) (name text : String) :
    Retouches d (d.setContentText id name text).1 := by
  unfold setContentText
  split
  · rename_i g hg
    obtain ⟨v, hv, hg⟩ := Option.bind_eq_some_iff.1 hg
    refine retouches_change fun w hw hid => .one (e := .setContentText name text) rfl rfl ?_
    obtain rfl : w = v := Option.some.inj ((hs.window?_of_mem hw).symm.trans (hid ▸ hv))
    rw [Frame.edit, hg, Option.getD_some]
  · exact .refl d

theorem retouches_setAddress (d : Desktop) (id : WindowId) (address : String) :
    Retouches d (d.setAddress id address).1 := by
  unfold setAddress
  split
  · exact .refl d
  · exact retouches_change (d := d) (f := fun w => { w with address := some address }) fun w _ _ => .same rfl rfl

theorem retouches_embed (d : Desktop) (id : WindowId) (widget : String) : Retouches d (d.embed id widget).1 := by
  unfold embed
  split
  · exact retouches_change fun w _ _ => .same rfl rfl
  · exact .refl d

theorem perform_retouches (hs : Sound d) (a : Action) : Retouches d (d.perform a).1 := by
  cases a with
  | registerTemplate kind markup => exact retouches_same rfl
  | registerPreset kind name data => exact retouches_same rfl
  | setChrome markup =>
    simp only [perform, setChrome]
    cases Fragment.parse markup <;> exact retouches_same rfl
  | setTitle id title => exact retouches_changeFrame (e := .setTitle title) rfl fun _ => rfl
  | setError id message => exact retouches_changeFrame (e := .setError message) rfl fun _ => rfl
  | setAddress id address => exact retouches_setAddress d id address
  | setContentText id name text => exact retouches_setContentText hs id name text
  | embed id widget => exact retouches_embed d id widget
  | _ => exact (perform_rearranges d rfl).retouches

theorem retouches_discard (d : Desktop) (id : WindowId) : Retouches d (d.discard id) := by
  unfold discard
  split
  · exact (rearranges_remove d _).retouches
  · exact .refl d

theorem retouches_complete (d : Desktop) (id : WindowId) (spec : WindowSpec) :
    Retouches d (d.complete id spec).1 := by
  refine (complete_keeps (P := Rearranges d) (.refl d) (fun anchor d₁ _ h => ?_) fun d₁ _ h => ?_).retouches
  · have hplaced := rearranges_placeUnder d id anchor
    rwa [h] at hplaced
  · have hmarked : Rearranges d₁ (d₁.change id fun w => { w with constructed := true }) :=
      rearranges_change fun _ => ⟨rfl, rfl, rfl, [], rfl⟩
    exact (h.trans hmarked).congr rfl rfl rfl fun _ => rfl

/-- Where a window of a later desktop comes from: it was there and was retouched at most,
or it was built as wished for. -/
inductive Origin (d : Desktop) (w' : Window) : Prop
  | kept (w : Window) (hw : w ∈ d.windows) (h : w.Retouched w')
  | built (spec : WindowSpec) (content : Element) (hf : d.newFrame spec content = .ok w'.frame) (hc : w'.caps = spec.caps)

theorem Retouches.origin (h : Retouches d d') {w' : Window} (hw' : w' ∈ d'.windows) : d.Origin w' := by
  obtain ⟨w, hw, hww⟩ := h w' hw'
  exact .kept w hw hww

theorem origin_instantiate {spec : WindowSpec} {w' : Window} (hw' : w' ∈ (d.instantiate spec).1.windows) :
    d.Origin w' := by
  obtain ⟨library, e, h⟩ | ⟨library, content, container, f, -, hf, h⟩ := d.instantiate_cases spec
  · rw [h] at hw'
    exact .kept w' hw' (.refl w')
  · rw [h] at hw'
    rcases List.mem_append.1 hw' with hw' | hw'
    · exact .kept w' hw' (.refl w')
    · cases List.mem_singleton.1 hw'
      exact .built spec content hf rfl

/-- Whatever a session has a desktop do, each window has an origin. -/
theorem carryOut_origin (hs : Sound d) (t : Task) {w' : Window} (hw' : w' ∈ (d.carryOut t).windows) : d.Origin w' := by
  cases t with
  | idle => exact (Retouches.refl d).origin hw'
  | act action => exact (perform_retouches hs action).origin hw'
  | instantiate spec => exact origin_instantiate hw'
  | conclude id kind v => exact (concludeHook_keeps (P := Retouches d) kind v (.refl d) (retouches_discard d id)).origin hw'
  | complete id spec => exact (retouches_complete d id spec).origin hw'

/-- A new frame in the usual chrome has the buttons that were wished for. -/
theorem newFrame_offers (hc : d.chrome = Chrome.usual) {spec : WindowSpec} {content : Element} {f : Frame}
    (hf : d.newFrame spec content = .ok f) : f.Offers spec.caps := by
  rw [newFrame, hc, Dress.build_usual] at hf
  cases hf
  have hbuilt := Frame.offers_allow { kind := spec.kind, content := .ofElement content } spec.caps
  have htitled := hbuilt.edit (e := .setTitle (spec.title.getD spec.kind)) rfl
  split
  · exact htitled.edit (e := .lock true) rfl
  · exact htitled

/-- The buttons of every window are those that its capabilities allow. -/
def Offering (d : Desktop) : Prop := ∀ w ∈ d.windows, w.frame.Offers w.caps

end Desktop

/-! ## Runs -/

variable {d₀ : Desktop} {m m' : Machine} {ms : List Machine}

theorem Machine.next_offering (hn : m.Next m') (hc : m.desktop.chrome = Chrome.usual) (hs : m.desktop.Sound)
    (h : m.desktop.Offering) : m'.desktop.Offering := by
  have hs' := (next_desktop hn hs).sound hs
  cases hn with
  | again p _ => exact h
  | step =>
    have hshift := Desktop.carryOut_shift hs m.task
    rw [step_task] at hs' ⊢
    intro w' hw'
    cases Desktop.carryOut_origin hs m.task hw' with
    | kept w hw hww =>
      -- A shift leaves capabilities alone, whatever it does to modes and rectangles.
      have hlive' := hs'.window?_of_mem hw'
      rw [hww.id] at hlive'
      obtain ⟨es, hes, hframe⟩ := hww.frame
      rw [(hshift.fate_of_window? (hs.window?_of_mem hw) hlive').1, hframe]
      exact (h w hw).edits hes
    | built spec content hf hcaps =>
      rw [hcaps]
      exact Desktop.newFrame_offers hc hf

/-- As long as the chrome is the usual one, the buttons of all live windows are those that
their capabilities allow, whatever was done to titles, contents and errors. -/
theorem run_offering (h₀ : d₀.IsNew) (h : Run d₀ (m :: ms)) (hc : ∀ n ∈ ms, n.desktop.chrome = Chrome.usual) :
    m.desktop.Offering := by
  have hinv := h.inv_of (P := fun m => m.desktop.Sound ∧ m.desktop.Offering)
    (Q := fun n => n.desktop.chrome = Chrome.usual) (fun _ => ⟨h₀.sound, ?_⟩) ?_ hc
  · exact hinv.2
  · intro w hw
    simp [Machine.start, Machine.desktop, h₀.windows] at hw
  · rintro m m' hn hc ⟨hs, ho⟩
    exact ⟨(Machine.next_desktop hn hs).sound hs, Machine.next_offering hn hc hs ho⟩

end FloatingPanels

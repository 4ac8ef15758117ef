import FloatingPanels.Proofs.Desktop.Local
import FloatingPanels.Proofs.Run
/-!
# Tasks and the windows they touch

What a session has its desktop do touches one window at most, unless the viewport
changes. `carryOut_touch` says so of every task: the other windows keep their cores, and
what becomes of addresses is one of four things.
-/

namespace FloatingPanels

/-- An address, and the window that claims it. -/
structure Claim where
  address : String
  id : WindowId
  deriving DecidableEq, Repr

/-- The window that an action names. -/
def Action.named? : Action → Option WindowId
  | .destroy id | .close id | .bringToFront id | .maximize id | .normalize id | .hide id | .reveal id | .stick id
  | .unstick id | .toggleStick id | .fit id _ | .placeUnder id _ | .beginDrag id _ | .beginResize id _ _
  | .setTitle id _ | .setError id _ | .setAddress id _ | .setContentText id _ _ | .embed id _ => some id
  | _ => none

namespace Desktop

/-- Whether an action acts on a window: it names it, the pointer hits it, or its gesture
takes a move or the release of the pointer. A change of the viewport acts on all. -/
def concerns (d : Desktop) (i : WindowId) : Action → Bool
  | .setViewport _ => true
  | .pointerMove _ | .pointerUp => d.gesture = some i
  | .pointerDown p | .doubleClick p => (d.hitTest p).map Prod.fst = some i
  | a => a.named? = some i

/-- Whether a task acts on a window. A creation does on the window that it adds. -/
def touches (d : Desktop) (i : WindowId) : Task → Bool
  | .idle => false
  | .act action => d.concerns i action
  | .instantiate _ => i = ⟨d.issued + 1⟩
  | .conclude id _ _ | .complete id _ => i = id

/-- The claim that comes with a task: a live window sets its address, or a window is
registered with one. -/
def claims (d : Desktop) : Task → Option Claim
  | .act (.setAddress id address) => if d.isLive id then some ⟨address, id⟩ else none
  | .instantiate spec => (d.registers spec).bind fun r => spec.address.map fun address => ⟨address, r.1⟩
  | _ => none

variable {d d' : Desktop} {p q : WindowId → Prop}

/-! ## What becomes of addresses -/

/-- Nobody claims or loses an address, a live window claims one, a window is added, or one
is removed. -/
inductive AddressStep (d d' : Desktop) : Option Claim → Prop
  | keep (ho : ∀ i, d'.own? i = d.own? i) (ha : d'.addresses = d.addresses) : AddressStep d d' none
  | claim {w : Window} (hw : d.window? w.id = some w) (address : String)
      (ho : ∀ i, d'.own? i = if i = w.id then some (some address) else d.own? i)
      (ha : d'.addresses = Keyed.set address w.id (d.addressesWithout w)) : AddressStep d d' (some ⟨address, w.id⟩)
  | add (address : Option String)
      (ha : d'.addresses = match address with
        | some a => Keyed.set a ⟨d.issued + 1⟩ d.addresses
        | none => d.addresses)
      (ho : ∀ i, d'.own? i = if i = ⟨d.issued + 1⟩ then some address else d.own? i) :
      AddressStep d d' (address.map fun a => ⟨a, ⟨d.issued + 1⟩⟩)
  | remove {w : Window} (hw : d.window? w.id = some w) (ho : ∀ i, d'.own? i = if i = w.id then none else d.own? i)
      (ha : d'.addresses = d.addresses.filter fun e => e.2 ≠ w.id) : AddressStep d d' none

/-- The windows that `p` leaves out keep their cores, and the addresses change as they do
with the claim `c`. -/
structure Touch (d d' : Desktop) (p : WindowId → Prop) (c : Option Claim) : Prop where
  spares : ∀ i, ¬ p i → d'.core? i = d.core? i
  address : AddressStep d d' c

theorem Local.touch (h : Local d d' p) : Touch d d' p none := ⟨h.spares, .keep h.own h.addresses⟩

theorem Touch.mono {c : Option Claim} (h : Touch d d' p c) (hpq : ∀ i, p i → q i) : Touch d d' q c :=
  ⟨fun i hi => h.spares i fun hp => hi (hpq i hp), h.address⟩

theorem touch_setAddress (d : Desktop) (id : WindowId) (address : String) :
    Touch d (d.setAddress id address).1 (· = id) (if d.isLive id then some ⟨address, id⟩ else none) := by
  unfold setAddress
  split
  · rename_i hw
    rw [if_neg (by simp [isLive, hw])]
    exact (Local.refl d _).touch
  · rename_i w hw
    obtain ⟨-, rfl⟩ := mem_of_window? hw
    rw [if_pos (isLive_of_window? hw)]
    have hf : ∀ v : Window, { v with address := some address }.id = v.id := fun _ => rfl
    refine ⟨fun i hi => ?_, .claim hw address (fun i => ?_) rfl⟩
    · exact congrArg (Option.map Window.core) (window?_change_of_ne hf hi)
    · by_cases hi : i = w.id
      · subst hi
        rw [if_pos rfl]
        show ((d.change w.id fun v => { v with address := some address }).window? w.id).map Window.address = _
        rw [window?_change hf, hw]
        rfl
      · rw [if_neg hi]
        exact congrArg (Option.map Window.address) (window?_change_of_ne hf hi)

/-- The windows that stay may sink, and are unlocked if a gesture ends with the one that
goes; that is all. -/
theorem core?_remove (d : Desktop) (w : Window) (i : WindowId) :
    (d.remove w).core? i = if i = w.id then none else d.core? i := by
  have hbare : ∀ d' : Desktop, d'.windows = (d.windows.filter fun v : Window => v.id ≠ w.id).map (Window.sink w.z) →
      d'.core? i = if i = w.id then none else d.core? i := by
    intro d' hw
    rw [core?, window?_without hw]
    split
    · rfl
    · rw [Option.map_map, core?]
      exact Option.map_congr fun v _ => Window.core_sink w.z v
  unfold remove
  by_cases hg : d.gesture = some w.id
  · simp only [hg, if_true]
    refine Eq.trans ?_ (hbare { d with windows := _ } rfl)
    exact (local_lockAll { d with windows := _ } false).spares i (p := fun _ => False) not_false
  · simp only [hg, if_false]
    exact hbare _ rfl

theorem touch_remove {w : Window} (hw : d.window? w.id = some w) : Touch d (d.remove w) (· = w.id) none := by
  refine ⟨fun i hi => ?_, .remove hw (fun i => ?_) ?_⟩
  · rw [core?_remove, if_neg hi]
  · rw [own?_eq, core?_remove, own?_eq]
    split <;> rfl
  · by_cases hg : d.gesture = some w.id
    · simp only [remove, hg, if_true]
      rfl
    · simp only [remove, hg, if_false]

theorem touch_destroy (d : Desktop) (id : WindowId) :
    Touch d (Answer.ofDone d (d.destroy id)).1 (· = id) none := by
  unfold destroy
  split
  · exact (Local.refl d _).touch
  · rename_i w hw
    obtain ⟨-, rfl⟩ := mem_of_window? hw
    exact touch_remove hw

theorem touch_discard (d : Desktop) (id : WindowId) : Touch d (d.discard id) (· = id) none := by
  unfold discard
  split
  · rename_i w hw
    obtain ⟨-, rfl⟩ := mem_of_window? hw
    exact touch_remove hw
  · exact (Local.refl d _).touch

theorem touch_close (d : Desktop) (id : WindowId) :
    Touch d (Answer.ofOutcome d (d.close id)).1 (· = id) none := by
  unfold close onWindow
  split
  · exact (Local.refl d _).touch
  · rename_i w hw
    obtain ⟨-, rfl⟩ := mem_of_window? hw
    by_cases hc : w.caps.close
    · simp only [hc, if_true]
      exact touch_remove hw
    · simp only [hc, Bool.false_eq_true, if_false]
      exact (Local.refl d _).touch

/-! ## Every task -/

/-- Every action on a window, whatever its outcome. -/
theorem touch_direct (a : Action) (ha : d.directed a = some a) :
    Touch d (d.perform a).1 (fun i => d.concerns i a) (d.claims (.act a)) := by
  have named : ∀ {d' c} {id : WindowId}, Touch d d' (· = id) c → Touch d d' (fun i => decide (some id = some i) = true) c :=
    fun h => h.mono fun i hi => by rw [hi]; exact decide_eq_true rfl
  have same : ∀ {d' : Desktop} {p}, d'.windows = d.windows → d'.addresses = d.addresses → Touch d d' p none :=
    fun hw ha => (local_same hw ha).touch
  cases a with
  | registerTemplate kind markup => exact same rfl rfl
  | registerPreset kind name data => exact same rfl rfl
  | setChrome markup =>
    simp only [perform, setChrome]
    cases Fragment.parse markup with
    | ok chrome => exact same rfl rfl
    | error e => exact same rfl rfl
  | setSensitivity n => exact same rfl rfl
  | setViewport s =>
    refine Local.touch (local_map rfl rfl (fun _ => ⟨rfl, rfl⟩) fun v hv => ?_)
    exact absurd rfl hv
  | setAnchor name rect => exact same rfl rfl
  | destroy id => exact named (touch_destroy d id)
  | close id => exact named (touch_close d id)
  | bringToFront id => exact named (local_onWindow fun w _ => local_raise d id).touch
  | maximize id =>
    refine named (local_onWindow fun w hw => ?_).touch
    obtain ⟨-, rfl⟩ := mem_of_window? hw
    exact local_maximizeWindow d w
  | normalize id =>
    refine named (local_onWindow fun w hw => ?_).touch
    obtain ⟨-, rfl⟩ := mem_of_window? hw
    exact local_normalizeWindow d w
  | hide id => exact named (local_hide d id).touch
  | reveal id =>
    refine named (local_onWindow fun w hw => ?_).touch
    obtain ⟨-, rfl⟩ := mem_of_window? hw
    exact local_revealWindow d w
  | stick id => exact named (local_stick d id).touch
  | unstick id => exact named (local_unstick d id).touch
  | toggleStick id => exact named (local_toggleStick d id).touch
  | fit id h => exact named (local_fit d id h).touch
  | placeUnder id anchor =>
    simp only [perform]
    cases h : d.placeUnder id anchor with
    | error e => exact same rfl rfl
    | ok d' => exact named (local_placeUnder h).touch
  | beginDrag id x => exact named (local_beginDrag d id x).touch
  | beginResize id h x => exact named (local_beginResize d id h x).touch
  | pointerMove x => exact ((local_pointerMove d x).mono fun i hi => decide_eq_true hi).touch
  | pointerUp => exact ((local_pointerUp d).mono fun i hi => decide_eq_true hi).touch
  | pointerDown x =>
    obtain ⟨t, -, ht⟩ := Option.map_eq_some_iff.1 ha
    exact absurd ht (pressAction_ne t.1 x t.2)
  | doubleClick x =>
    obtain ⟨t, -, ht⟩ := Option.bind_eq_some_iff.1 ha
    exact absurd ht (doubleClickAction_ne t.1 x t.2)
  | setTitle id title => exact named (local_changeFrame d id _).touch
  | setError id message => exact named (local_changeFrame d id _).touch
  | setAddress id address => exact named (touch_setAddress d id address)
  | setContentText id name text => exact named (local_setContentText d id name text).touch
  | embed id widget => exact named (local_embed d id widget).touch
  | note data => exact same rfl rfl

/-- What an action comes to acts on no other window. -/
theorem concerns_directed {a b : Action} (h : d.directed a = some b) {i : WindowId} (hi : d.concerns i b) :
    d.concerns i a := by
  cases a with
  | pointerDown x =>
    obtain ⟨t, ht, rfl⟩ := Option.map_eq_some_iff.1 h
    have hn : d.concerns i (pressAction t.1 x t.2) = decide (some t.1 = some i) := by
      cases t.2 with
      | control c => cases c <;> rfl
      | _ => rfl
    rw [hn] at hi
    simp only [concerns, ht, Option.map_some]
    exact hi
  | doubleClick x =>
    obtain ⟨t, ht, hb⟩ := Option.bind_eq_some_iff.1 h
    have hn : d.concerns i b = decide (some t.1 = some i) := by
      cases hp : t.2 <;> rw [hp] at hb <;> cases hb <;> rfl
    rw [hn] at hi
    simp only [concerns, ht, Option.map_some]
    exact hi
  | _ => cases h; exact hi

/-- No press of the pointer claims an address. -/
theorem claims_directed {a b : Action} (h : d.directed a = some b) : d.claims (.act a) = d.claims (.act b) := by
  cases a with
  | pointerDown x =>
    obtain ⟨t, -, rfl⟩ := Option.map_eq_some_iff.1 h
    cases t.2 with
    | control c => cases c <;> rfl
    | _ => rfl
  | doubleClick x =>
    obtain ⟨t, -, hb⟩ := Option.bind_eq_some_iff.1 h
    cases hp : t.2 <;> rw [hp] at hb <;> cases hb <;> rfl
  | _ => cases h; rfl

theorem claims_undirected {a : Action} (h : d.directed a = none) : d.claims (.act a) = none := by
  cases a with
  | setAddress id address => cases h
  | _ => rfl

theorem touch_perform (d : Desktop) (a : Action) :
    Touch d (d.perform a).1 (fun i => d.concerns i a) (d.claims (.act a)) := by
  rw [perform_directed]
  cases h : d.directed a with
  | none =>
    rw [claims_undirected h]
    exact (Local.refl d _).touch
  | some b =>
    rw [claims_directed h]
    exact (touch_direct b (directed_directed h)).mono fun i hi => concerns_directed h hi

theorem touch_add (hs : Sound d) (library : Library) (spec : WindowSpec) (container : String) (f : Frame) :
    Touch d (({ d with library } : Desktop).add spec container f).1 (· = ⟨d.issued + 1⟩)
      (spec.address.map fun address => ⟨address, ⟨d.issued + 1⟩⟩) := by
  have hn : d.window? ⟨d.issued + 1⟩ = none := by
    have := hs.isLive_new
    simpa [isLive] using this
  have hw : ∀ i, (({ d with library } : Desktop).add spec container f).1.window? i =
      if i = ⟨d.issued + 1⟩ then some (newWindow { d with library } spec container f) else d.window? i :=
    @window?_append d _ (newWindow { d with library } spec container f) rfl hn
  refine ⟨fun i hi => ?_, .add spec.address rfl fun i => ?_⟩
  · rw [core?, hw, if_neg hi, core?]
  · rw [own?, hw]
    split <;> rfl

theorem touch_instantiate (hs : Sound d) (spec : WindowSpec) :
    Touch d (d.instantiate spec).1 (· = ⟨d.issued + 1⟩) (d.claims (.instantiate spec)) := by
  show Touch d _ _ ((d.registers spec).bind fun r => spec.address.map fun address => ⟨address, r.1⟩)
  obtain ⟨library, e, h⟩ | ⟨library, content, container, f, hr, -, h⟩ := d.instantiate_cases spec
  · simp only [registers, h]
    exact (local_same rfl rfl : Local d { d with library } _).touch
  · simp only [registers, h, hr]
    exact touch_add hs library spec container f

theorem touch_concludeHook (d : Desktop) (id : WindowId) (kind : String) (v : Verdict) :
    Touch d (d.concludeHook id kind v).1 (· = id) none :=
  concludeHook_keeps (P := fun d' => Touch d d' (· = id) none) kind v (Local.refl d _).touch (touch_discard d id)

theorem carryOut_touch (hs : Sound d) (t : Task) : Touch d (d.carryOut t) (fun i => d.touches i t) (d.claims t) := by
  cases t with
  | idle => exact (Local.refl d _).touch
  | act action => exact touch_perform d action
  | instantiate spec => exact (touch_instantiate hs spec).mono fun i hi => decide_eq_true hi
  | conclude id kind v => exact (touch_concludeHook d id kind v).mono fun i hi => decide_eq_true hi
  | complete id spec => exact (local_complete d id spec).touch.mono fun i hi => decide_eq_true hi

end Desktop

end FloatingPanels

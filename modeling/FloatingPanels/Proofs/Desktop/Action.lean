import FloatingPanels.Proofs.Desktop.Pointer
/-!
# Effects of actions

A press of the pointer comes to an action on the window that it picks.
`perform_effect` says which effect an action has and which window it raises. After
this file the theorems about desktops split on effects and never look at an operation
again.
-/

namespace FloatingPanels.Desktop

variable {d : Desktop}

/-! ## Presses -/

/-- What a press on a part of a window comes to. -/
def pressAction (id : WindowId) (p : Point) : Part → Action
  | .title => .beginDrag id p
  | .handle h => .beginResize id h p
  | .control .close => .close id
  | .control .hide => .hide id
  | .control .maximize => .maximize id
  | .control .stick => .toggleStick id
  | .content | .footer => .bringToFront id

/-- What a double click on a part of a window comes to, if anything. -/
def doubleClickAction (id : WindowId) : Part → Option Action
  | .handle h => some (.fit id h)
  | .title => some (.maximize id)
  | _ => none

/-- The action on a window that an action comes to: itself, unless the pointer picks
the window. -/
def directed (d : Desktop) : Action → Option Action
  | .pointerDown p => (d.hitTest p).map fun t => pressAction t.1 p t.2
  | .doubleClick p => (d.hitTest p).bind fun t => doubleClickAction t.1 t.2
  | a => some a

theorem pressAction_ne (id : WindowId) (p : Point) (part : Part) : pressAction id p part ≠ .pointerDown p := by
  cases part with
  | control c => cases c <;> exact nofun
  | _ => exact nofun

theorem doubleClickAction_ne (id : WindowId) (p : Point) (part : Part) :
    doubleClickAction id part ≠ some (.doubleClick p) := by
  cases part <;> exact nofun

/-- What an action comes to is an action on a window and comes to itself. -/
theorem directed_directed {a b : Action} (h : d.directed a = some b) : d.directed b = some b := by
  cases a with
  | pointerDown p =>
    obtain ⟨t, -, rfl⟩ := Option.map_eq_some_iff.1 h
    -- No press comes to another press.
    cases t.2 with
    | control c => cases c <;> rfl
    | _ => rfl
  | doubleClick p =>
    obtain ⟨t, -, ht⟩ := Option.bind_eq_some_iff.1 h
    cases hp : t.2 <;> rw [hp] at ht <;> cases ht <;> rfl
  | _ => cases h; rfl

/-- The desktop after an outcome, or after the same outcome under a point. -/
theorem atPoint_eq {p : Point} {id : WindowId} {part : Part} (ht : d.hitTest p = some (id, part))
    (f : WindowId → Part → Outcome) : (d.atPoint p f).1 = (Answer.ofOutcome d (f id part)).1 := by
  simp only [atPoint, ht]
  cases f id part <;> rfl

theorem pressPart_eq (d : Desktop) (id : WindowId) (p : Point) (part : Part) :
    (Answer.ofOutcome d (d.pressPart id p part)).1 = (d.perform (pressAction id p part)).1 := by
  cases part with
  | title => rfl
  | handle h => rfl
  | control c => cases c <;> rfl
  | content =>
    simp only [pressPart, pressAction, perform]
    cases d.bringToFront id <;> rfl
  | footer =>
    simp only [pressPart, pressAction, perform]
    cases d.bringToFront id <;> rfl

/-- An action does what the action on a window does that it comes to, and nothing if
it comes to none. -/
theorem perform_directed (d : Desktop) (a : Action) :
    (d.perform a).1 = ((d.directed a).map fun a => (d.perform a).1).getD d := by
  cases a with
  | pointerDown p =>
    show (d.pointerDown p).1 = _
    cases ht : d.hitTest p with
    | none => simp only [pointerDown, atPoint, directed, ht, Option.map_none, Option.getD_none]
    | some t =>
      simp only [directed, ht, Option.map_some, Option.getD_some]
      exact (atPoint_eq ht _).trans (pressPart_eq d t.1 p t.2)
  | doubleClick p =>
    show (d.doubleClick p).1 = _
    cases ht : d.hitTest p with
    | none => simp only [doubleClick, atPoint, directed, ht, Option.bind_none, Option.map_none, Option.getD_none]
    | some t =>
      simp only [directed, ht, Option.bind_some]
      refine (atPoint_eq ht _).trans ?_
      cases t.2 <;> rfl
  | _ => rfl

/-! ## Actions -/

/-- The window that an action on a window raises: it is brought to the front, a
gesture starts on it, it is shown, or it enters the maximized mode. -/
def raisedBy (d : Desktop) (a : Action) : Option WindowId :=
  match a with
  | .bringToFront id => if d.isLive id then some id else none
  | .reveal id | .beginDrag id _ | .beginResize id _ _ => if (d.perform a).2 = .flag true then some id else none
  | .maximize id => if (d.perform a).2 = .flag true && (d.perform a).1.fills id then some id else none
  | _ => none

def raised (d : Desktop) (a : Action) : Option WindowId := (d.directed a).bind d.raisedBy

theorem effect_bringToFront (d : Desktop) (id : WindowId) :
    Effect d (Answer.ofOutcome d (d.bringToFront id)).1 (if d.isLive id then some id else none) none := by
  unfold bringToFront onWindow
  split
  · rename_i hw
    rw [if_neg (by simp [isLive, hw])]
    exact effect_refl d
  · rename_i w hw
    have hl := isLive_of_window? hw
    rw [if_pos hl]
    exact .alike (alike_raise hl)

theorem effect_maximize (hs : Sound d) (id : WindowId) :
    Effect d (Answer.ofOutcome d (d.maximize id)).1
      (if (Answer.ofOutcome d (d.maximize id)).2 = .flag true && (Answer.ofOutcome d (d.maximize id)).1.fills id
        then some id else none) none := by
  unfold maximize onWindow
  split
  · exact effect_refl d
  · rename_i w hw
    obtain ⟨-, rfl⟩ := mem_of_window? hw
    have := effect_maximizeWindow hs hw
    simpa [Answer.ofOutcome] using this

/-- Every action on a window, whatever its outcome. -/
theorem effect_direct (hs : Sound d) (a : Action) (ha : d.directed a = some a) :
    Effect d (d.perform a).1 (d.raisedBy a) none := by
  have same : ∀ {d'}, d'.windows = d.windows → d'.page.children = d.page.children → d'.addresses = d.addresses →
      d'.tray = d.tray → d'.issued = d.issued → d'.gesture = d.gesture → d'.lastCreated = d.lastCreated →
      Effect d d' none none :=
    fun hw hp ha ht hi hg hl => .alike (alike_of_same hw hp ha ht hi hg hl)
  cases a with
  | registerTemplate kind markup => exact same rfl rfl rfl rfl rfl rfl rfl
  | registerPreset kind name data => exact same rfl rfl rfl rfl rfl rfl rfl
  | setChrome markup =>
    simp only [perform, setChrome]
    cases Fragment.parse markup with
    | ok chrome => exact same rfl rfl rfl rfl rfl rfl rfl
    | error e => exact effect_refl d
  | setSensitivity n => exact same rfl rfl rfl rfl rfl rfl rfl
  | setViewport s => exact .alike (alike_setViewport d s)
  | setAnchor name rect => exact same rfl rfl rfl rfl rfl rfl rfl
  | destroy id =>
    simp only [perform, destroy]
    split
    · exact effect_refl d
    · rename_i w hw
      exact effect_remove (mem_of_window? hw).1
  | close id => exact (does_close id).effect
  | bringToFront id => exact effect_bringToFront d id
  | maximize id => exact effect_maximize hs id
  | normalize id => exact (does_normalize hs id).effect
  | hide id => exact (does_hide id).effect
  | reveal id => exact (does_reveal id).effect_of_answer
  | stick id => exact (does_stick hs id).effect
  | unstick id => exact (does_unstick hs id).effect
  | toggleStick id => exact (does_toggleStick hs id).effect
  | fit id h => exact (does_fit id h).effect
  | placeUnder id anchor =>
    simp only [perform]
    cases h : d.placeUnder id anchor with
    | error e => exact effect_refl d
    | ok d' => exact .alike (alike_placeUnder h)
  | beginDrag id p => exact (does_beginDrag hs id p).effect_of_answer
  | beginResize id h p => exact (does_beginResize hs id h p).effect_of_answer
  | pointerMove p => exact .alike (alike_pointerMove hs p)
  | pointerUp => exact .alike (alike_pointerUp d)
  | pointerDown p =>
    obtain ⟨t, -, ht⟩ := Option.map_eq_some_iff.1 ha
    exact absurd ht (pressAction_ne t.1 p t.2)
  | doubleClick p =>
    obtain ⟨t, -, ht⟩ := Option.bind_eq_some_iff.1 ha
    exact absurd ht (doubleClickAction_ne t.1 p t.2)
  | setTitle id title => exact .alike (alike_changeFrame d id _)
  | setError id message => exact .alike (alike_changeFrame d id _)
  | setAddress id address => exact effect_setAddress id address
  | setContentText id name text => exact .alike (alike_setContentText d id name text)
  | embed id widget => exact .alike (alike_embed d id widget)
  | note data => exact same rfl rfl rfl rfl rfl rfl rfl

theorem perform_effect (hs : Sound d) (a : Action) : Effect d (d.perform a).1 (d.raised a) none := by
  rw [perform_directed, raised]
  cases h : d.directed a with
  | none => exact effect_refl d
  | some b => exact effect_direct hs b (directed_directed h)

end FloatingPanels.Desktop

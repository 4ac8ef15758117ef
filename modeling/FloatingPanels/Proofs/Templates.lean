import FloatingPanels.Proofs.Desktop.Rearranged
import FloatingPanels.Proofs.Run
/-!
# What a library remembers

Templates are parsed when they are first needed and the result is kept, but nobody can tell
by the trees: what is looked up, and what a window is built from, is always what the markup
that was registered last is parsed to. `History` lists what was asked of a library, by hosts
and by the creations of a session, in any order; `Remembers` says what such a list makes of
each entry, and `history_transparent` what follows for all that can be asked next.
-/

namespace FloatingPanels

namespace Library

/-! ## Requests -/

/-- What is asked of a library. A creation looks up the template of its kind. -/
inductive Request where
  | register (kind markup : String)
  | registerPreset (kind name : String) (data : Value)
  | fragment (kind : String)
  | contains (kind : String)
  | markup (kind : String)
  | isParsed (kind : String)

namespace Request

/-- The kind that a request is about. -/
def kind : Request → String
  | register kind _ | registerPreset kind _ _ | fragment kind | contains kind | markup kind | isParsed kind => kind

/-- The markup that a request registers for a kind. -/
def markup? (kind : String) : Request → Option String
  | register k text => if k = kind then some text else none
  | _ => none

/-- The data that a request registers as a preset of a kind. -/
def preset? (kind name : String) : Request → Option Value
  | registerPreset k n data => if k = kind ∧ n = name then some data else none
  | _ => none

def looksUp (kind : String) : Request → Bool
  | fragment k => k = kind
  | _ => false

theorem markup?_eq_some {r : Request} {kind markup : String} :
    r.markup? kind = some markup ↔ r = register kind markup := by
  cases r with
  | register k text => simp [markup?]
  | _ => simp [markup?]

theorem looksUp_iff {r : Request} {kind : String} : r.looksUp kind ↔ r = fragment kind := by
  cases r with
  | fragment k => simp [looksUp]
  | _ => simp [looksUp]

end Request

/-- The library after a request; most leave it as it was. -/
def after (l : Library) : Request → Library
  | .register kind markup => l.register kind markup
  | .registerPreset kind name data => l.registerPreset kind name data
  | .fragment kind => (l.fragment kind).1
  | _ => l

/-! ## Lists of requests, the latest first -/

/-- The markup that was registered last for a kind. -/
def registered? (kind : String) (rs : List Request) : Option String := rs.findSome? (Request.markup? kind)

/-- Whether a kind was looked up after its last registration. -/
def lookedUp (kind : String) : List Request → Bool
  | [] => false
  | r :: rs => r.looksUp kind || ((r.markup? kind).isNone && lookedUp kind rs)

variable {l : Library} {kind other markup name : String} {rs : List Request}

theorem registered?_cons (kind : String) (r : Request) (rs : List Request) :
    registered? kind (r :: rs) = (r.markup? kind).or (registered? kind rs) := by
  rw [registered?, List.findSome?_cons]
  cases r.markup? kind <;> rfl

theorem registered?_eq_some : registered? kind rs = some markup ↔
    ∃ later earlier, rs = later ++ .register kind markup :: earlier ∧ ∀ text, .register kind text ∉ later := by
  rw [registered?, List.findSome?_eq_some_iff]
  constructor
  · rintro ⟨later, r, earlier, rfl, hr, hlater⟩
    rw [Request.markup?_eq_some.1 hr]
    refine ⟨later, earlier, rfl, fun text hmem => ?_⟩
    have := Request.markup?_eq_some.2 (rfl : Request.register kind text = _)
    rw [hlater _ hmem] at this
    cases this
  · rintro ⟨later, earlier, rfl, hlater⟩
    refine ⟨later, _, earlier, rfl, Request.markup?_eq_some.2 rfl, fun r hr => ?_⟩
    refine Option.eq_none_iff_forall_ne_some.2 fun text htext => hlater text ?_
    rwa [← Request.markup?_eq_some.1 htext]

theorem registered?_eq_none : registered? kind rs = none ↔ ∀ markup, .register kind markup ∉ rs := by
  rw [registered?, List.findSome?_eq_none_iff]
  constructor
  · intro h markup hmem
    have := h _ hmem
    rw [Request.markup?_eq_some.2 rfl] at this
    cases this
  · intro h r hr
    refine Option.eq_none_iff_forall_ne_some.2 fun markup hmarkup => h markup ?_
    rwa [← Request.markup?_eq_some.1 hmarkup]

/-- The kind was registered, not again since, and looked up since. -/
theorem lookedUp_registered : lookedUp kind rs ∧ registered? kind rs = some markup ↔
    ∃ later earlier, rs = later ++ .register kind markup :: earlier ∧ (∀ text, .register kind text ∉ later) ∧
      .fragment kind ∈ later := by
  induction rs with
  | nil => simp [lookedUp]
  | cons r rs ih =>
    rw [registered?_cons, lookedUp]
    cases hr : r.markup? kind with
    | some text =>
      obtain rfl := Request.markup?_eq_some.1 hr
      constructor
      · rintro ⟨h, -⟩
        cases h
      · rintro ⟨later, earlier, heq, hlater, hlooked⟩
        cases later with
        | nil => cases hlooked
        | cons x later =>
          obtain ⟨rfl, -⟩ := List.cons.inj heq
          exact absurd List.mem_cons_self (hlater text)
    | none =>
      have hne : ∀ text, Request.register kind text ≠ r := by
        rintro text rfl
        rw [Request.markup?_eq_some.2 rfl] at hr
        cases hr
      rw [Option.isNone_none, Bool.true_and, Option.none_or, Bool.or_eq_true, Request.looksUp_iff]
      constructor
      · rintro ⟨rfl | hlooked, hmarkup⟩
        · obtain ⟨later, earlier, rfl, hlater⟩ := registered?_eq_some.1 hmarkup
          refine ⟨.fragment kind :: later, earlier, rfl, fun text hmem => ?_, List.mem_cons_self⟩
          exact (List.mem_cons.1 hmem).elim (hne text) (hlater text)
        · obtain ⟨later, earlier, rfl, hlater, hmem⟩ := ih.1 ⟨hlooked, hmarkup⟩
          refine ⟨r :: later, earlier, rfl, fun text hmem => ?_, List.mem_cons_of_mem _ hmem⟩
          exact (List.mem_cons.1 hmem).elim (hne text) (hlater text)
      · rintro ⟨later, earlier, heq, hlater, hmem⟩
        cases later with
        | nil => cases hmem
        | cons x later =>
          obtain ⟨rfl, rfl⟩ := List.cons.inj heq
          have hlater : ∀ text, .register kind text ∉ later := fun text h => hlater text (List.mem_cons_of_mem _ h)
          refine ⟨?_, registered?_eq_some.2 ⟨later, earlier, rfl, hlater⟩⟩
          rcases List.mem_cons.1 hmem with rfl | hmem
          · exact .inl rfl
          · exact .inr (ih.2 ⟨later, earlier, rfl, hlater, hmem⟩).1

/-! ## One request -/

/-- A template is parsed when it is looked up, unless it was already. -/
theorem value?_fragment (l : Library) (kind other : String) :
    (l.fragment kind).1.templates.value? other =
      if kind = other then
        (l.templates.value? other).map fun t => { t with parsed := some (t.parsed.getD (Fragment.parse t.markup)) }
      else l.templates.value? other := by
  cases ht : l.templates.value? kind with
  | none =>
    simp only [fragment, ht]
    split
    · rename_i h
      rw [← h, ht, Option.map_none]
    · rfl
  | some t =>
    cases hp : t.parsed with
    | some tree =>
      simp only [fragment, ht, hp]
      split
      · rename_i h
        rw [← h, ht, Option.map_some, hp, Option.getD_some, ← hp]
      · rfl
    | none =>
      simp only [fragment, ht, hp, Keyed.value?_set]
      split
      · rename_i h
        rw [← h, ht, Option.map_some, hp, Option.getD_none]
      · rfl

theorem presets_fragment (l : Library) (kind : String) : (l.fragment kind).1.presets = l.presets := by
  unfold fragment
  split
  · rfl
  · split <;> rfl

theorem preset?_registerPreset (l : Library) (k n kind name : String) (data : Value) :
    (l.registerPreset k n data).preset? kind name =
      if k = kind ∧ n = name then some data else l.preset? kind name := by
  simp only [registerPreset, preset?, Keyed.value?_set]
  by_cases hk : k = kind
  · subst hk
    simp only [if_true, Option.bind_some, Keyed.value?_set, true_and]
    cases l.presets.value? k <;> rfl
  · simp only [hk, if_false, false_and]

/-- A request about one kind leaves all other kinds alone. -/
theorem after_apart (l : Library) {r : Request} (h : r.kind ≠ other) :
    (l.after r).templates.value? other = l.templates.value? other ∧
      (l.after r).presets.value? other = l.presets.value? other := by
  cases r with
  | register kind markup => exact ⟨(Keyed.value?_set _ _ _ _).trans (if_neg h), rfl⟩
  | registerPreset kind name data => exact ⟨rfl, (Keyed.value?_set _ _ _ _).trans (if_neg h)⟩
  | fragment kind => exact ⟨(l.value?_fragment kind other).trans (if_neg h), by rw [after, presets_fragment]⟩
  | _ => exact ⟨rfl, rfl⟩

/-- The library is what these requests have made of an empty one. -/
structure Remembers (l : Library) (rs : List Request) : Prop where
  template : ∀ kind, l.templates.value? kind = (registered? kind rs).map fun markup =>
    { markup, parsed := if lookedUp kind rs then some (Fragment.parse markup) else none }
  preset : ∀ kind name, l.preset? kind name = rs.findSome? (Request.preset? kind name)

theorem remembers_empty : Remembers {} [] := ⟨fun _ => rfl, fun _ _ => rfl⟩

/-- Whether it has been parsed before or not, a kind is looked up to the same. -/
theorem Remembers.fragment_eq (h : l.Remembers rs) (kind : String) :
    (l.fragment kind).2 = (registered? kind rs).map Fragment.parse := by
  have htemplate := h.template kind
  cases hr : registered? kind rs with
  | none =>
    rw [hr] at htemplate
    simp only [fragment, htemplate, Option.map_none]
  | some markup =>
    rw [hr] at htemplate
    cases hlooked : lookedUp kind rs <;>
      simp only [fragment, htemplate, Option.map_some, hlooked, Bool.false_eq_true, if_true, if_false]

theorem Remembers.after (h : l.Remembers rs) (r : Request) : (l.after r).Remembers (r :: rs) := by
  constructor
  · intro kind
    by_cases hkind : r.kind = kind
    · subst hkind
      cases r with
      | register k markup =>
        have hlooked : lookedUp k (.register k markup :: rs) = false := by simp [lookedUp, Request.looksUp, Request.markup?]
        refine (Keyed.value?_set _ _ _ _).trans ?_
        simp [Request.kind, registered?_cons, Request.markup?, hlooked]
      | fragment k =>
        have hold : l.templates.value? k = _ := h.template k
        have hlooked : lookedUp k (.fragment k :: rs) = true := by simp [lookedUp, Request.looksUp]
        refine (l.value?_fragment k k).trans ?_
        rw [if_pos rfl, hold, Option.map_map]
        refine Option.map_congr fun markup _ => ?_
        by_cases hbefore : lookedUp k rs <;> simp [Request.kind, hlooked, hbefore]
      | _ => exact h.template _
    · have hmarkup : r.markup? kind = none := by
        refine Option.eq_none_iff_forall_ne_some.2 fun text htext => hkind ?_
        rw [Request.markup?_eq_some.1 htext]
        rfl
      have hlooks : r.looksUp kind = false := by
        refine Bool.eq_false_iff.2 fun hlooks => hkind ?_
        rw [Request.looksUp_iff.1 hlooks]
        rfl
      rw [(l.after_apart hkind).1, h.template, registered?_cons, lookedUp, hmarkup, hlooks]
      rfl
  · intro kind name
    rw [List.findSome?_cons, ← h.preset kind name]
    cases r with
    | registerPreset k n data =>
      refine (l.preset?_registerPreset k n kind name data).trans ?_
      rw [Request.preset?]
      split <;> rfl
    | fragment k =>
      show ((l.fragment k).1.presets.value? kind).bind _ = _
      rw [presets_fragment]
      rfl
    | _ => rfl

end Library

/-! ## Sessions -/

namespace Desktop

/-- What a task asks of the library. A creation looks its kind up once it has a container. -/
def request? (d : Desktop) : Task → Option Library.Request
  | .act (.registerTemplate kind markup) => some (.register kind markup)
  | .act (.registerPreset kind name data) => some (.registerPreset kind name data)
  | .instantiate spec => (d.page.resolve spec.parent).map fun _ => .fragment spec.kind
  | _ => none

/-- The frame of a new window, if what its kind was looked up to gives one. -/
def frameOf (d : Desktop) (spec : WindowSpec) : Option (Except TemplateError Element) → Except CreateError Frame
  | none => .error (.unknownTemplate spec.kind)
  | some (.error e) => .error (.template spec.kind e)
  | some (.ok tree) => d.newFrame spec tree

theorem instantiate_eq {d : Desktop} {spec : WindowSpec} {container : String}
    (h : d.page.resolve spec.parent = some container) :
    d.instantiate spec =
      match d.frameOf spec (d.library.fragment spec.kind).2 with
      | .error e => ({ d with library := (d.library.fragment spec.kind).1 }, .error e)
      | .ok f =>
        ((({ d with library := (d.library.fragment spec.kind).1 } : Desktop).add spec container f).1,
          .ok ⟨d.issued + 1⟩) := by
  unfold instantiate
  rw [h]
  dsimp only
  rcases (d.library.fragment spec.kind).2 with _ | _ | tree
  · rfl
  · rfl
  · show (match d.newFrame spec tree with | .error e => _ | .ok f => _) = _
    rw [frameOf]
    cases d.newFrame spec tree <;> rfl

theorem carryOut_library (d : Desktop) (t : Task) :
    (d.carryOut t).library = (d.request? t).elim d.library d.library.after := by
  cases t with
  | idle => rfl
  | act action =>
    cases action with
    | registerTemplate kind markup => rfl
    | registerPreset kind name data => rfl
    | setChrome markup =>
      simp only [carryOut, perform, setChrome]
      cases Fragment.parse markup <;> rfl
    | setTitle id title =>
      simp only [carryOut, perform, setTitle, changeFrame]
      split <;> rfl
    | setError id message =>
      simp only [carryOut, perform, setError, changeFrame]
      split <;> rfl
    | setAddress id address =>
      simp only [carryOut, perform, setAddress]
      split <;> rfl
    | setContentText id name text =>
      simp only [carryOut, perform, setContentText]
      split <;> rfl
    | embed id widget =>
      simp only [carryOut, perform, embed]
      split <;> rfl
    | _ => exact (perform_rearranges d rfl).library
  | instantiate spec =>
    rw [carryOut, request?]
    cases hr : d.page.resolve spec.parent with
    | none =>
      unfold instantiate
      rw [hr]
      rfl
    | some container =>
      rw [instantiate_eq hr]
      cases d.frameOf spec (d.library.fragment spec.kind).2 <;> rfl
  | conclude id kind v =>
    refine concludeHook_keeps (P := fun d' => d'.library = d.library) kind v rfl ?_
    unfold discard
    split
    · exact (rearranges_remove d _).library
    · rfl
  | complete id spec =>
    refine complete_keeps (P := fun d' => d'.library = d.library) rfl (fun anchor d₁ _ h => ?_) fun _ _ h => h
    have := (rearranges_placeUnder d id anchor).library
    simpa only [perform, h, Answer.ofDone] using this

end Desktop

namespace Machine

/-- What the next step asks of the library. -/
def request? (m : Machine) : Option Library.Request := m.desktop.request? m.task

/-- What the next steps ask of the library, the latest first. -/
def requests (m : Machine) : Nat → List Library.Request
  | 0 => []
  | n + 1 => (Machine.step^[n] m).request?.toList ++ requests m n

/-- The machine after its host has asked something of the library. -/
def ask (m : Machine) (r : Library.Request) : Machine :=
  { m with session.desktop.library := m.desktop.library.after r }

theorem next_library {m m' : Machine} (h : m.Next m') :
    m'.desktop.library = m.request?.elim m.desktop.library m.desktop.library.after := by
  cases h with
  | step => exact (congrArg Desktop.library m.step_task).trans (m.desktop.carryOut_library m.task)
  | again p hm =>
    obtain ⟨s, phase, stack⟩ := m
    cases phase with
    | stop v => rfl
    | _ => cases hm

end Machine

/-- The moments of sessions on a desktop whose host also asks the library itself, and all
that was asked of it so far, the latest first. -/
inductive History (d₀ : Desktop) : Machine → List Library.Request → Prop
  | begin (p : Program) : History d₀ (.start { desktop := d₀ } p) []
  | next {m m' : Machine} {rs : List Library.Request} :
    History d₀ m rs → m.Next m' → History d₀ m' (m.request?.toList ++ rs)
  | ask {m : Machine} {rs : List Library.Request} : History d₀ m rs → (r : Library.Request) → History d₀ (m.ask r) (r :: rs)

theorem History.steps {d₀ : Desktop} {m : Machine} {rs : List Library.Request} (h : History d₀ m rs) (n : Nat) :
    History d₀ (Machine.step^[n] m) (m.requests n ++ rs) := by
  induction n with
  | zero => exact h
  | succ n ih =>
    rw [Function.iterate_succ_apply', Machine.requests, List.append_assoc]
    exact ih.next .step

theorem History.remembers {d₀ : Desktop} (h₀ : d₀.library = {}) {m : Machine} {rs : List Library.Request}
    (h : History d₀ m rs) : m.desktop.library.Remembers rs := by
  induction h with
  | begin p =>
    rw [show (Machine.start { desktop := d₀ } p).desktop.library = {} from h₀]
    exact Library.remembers_empty
  | @next m m' rs _ hn ih =>
    rw [Machine.next_library hn]
    cases m.request? with
    | none => exact ih
    | some r => exact ih.after r
  | ask _ r ih => exact ih.after r

/-- What can be asked of the library of a desktop, after these requests. -/
structure Transparent (d : Desktop) (rs : List Library.Request) : Prop where
  /-- A kind is looked up to what its last markup is parsed to. -/
  fragment : ∀ kind, (d.library.fragment kind).2 = (Library.registered? kind rs).map Fragment.parse
  unknown : ∀ kind, (d.library.fragment kind).2 = none ↔ ∀ markup, .register kind markup ∉ rs
  markup : ∀ kind, d.library.markup? kind = Library.registered? kind rs
  contains : ∀ kind, d.library.contains kind = (Library.registered? kind rs).isSome
  /-- A kind counts as parsed if it was looked up since its last registration. -/
  parsed : ∀ kind, d.library.isParsed kind ↔ ∃ markup later earlier, rs = later ++ .register kind markup :: earlier ∧
    (∀ text, .register kind text ∉ later) ∧ .fragment kind ∈ later
  preset : ∀ kind name, d.library.preset? kind name = rs.findSome? (Library.Request.preset? kind name)
  /-- Windows are built from the same trees. -/
  built : ∀ spec container, d.page.resolve spec.parent = some container →
    (d.instantiate spec).2 =
        (d.frameOf spec ((Library.registered? spec.kind rs).map Fragment.parse)).map (fun _ => ⟨d.issued + 1⟩) ∧
      ∀ f, d.frameOf spec ((Library.registered? spec.kind rs).map Fragment.parse) = .ok f →
        (d.instantiate spec).1.windows = d.windows ++ [d.newWindow spec container f]
  /-- What is asked about one kind makes no difference to another, and a preset none to
  any template. -/
  apart : ∀ r kind, r.kind ≠ kind → (d.library.after r).templates.value? kind = d.library.templates.value? kind ∧
    (d.library.after r).presets.value? kind = d.library.presets.value? kind
  presets : ∀ kind name data, (d.library.registerPreset kind name data).templates = d.library.templates

/-- That templates are parsed late and only once cannot be told from what they are looked
up to or what windows are built from. -/
theorem history_transparent {d₀ : Desktop} (h₀ : d₀.library = {}) {m : Machine} {rs : List Library.Request}
    (h : History d₀ m rs) : Transparent m.desktop rs := by
  have hl := h.remembers h₀
  refine ⟨hl.fragment_eq, fun kind => ?_, fun kind => ?_, fun kind => ?_, fun kind => ?_, hl.preset, ?_,
    fun r kind hr => m.desktop.library.after_apart hr, fun _ _ _ => rfl⟩
  · rw [hl.fragment_eq, Option.map_eq_none_iff, Library.registered?_eq_none]
  · rw [Library.markup?, hl.template, Option.map_map]
    exact Option.map_id'
  · rw [Library.contains, ← Keyed.value?_isSome, hl.template, Option.isSome_map]
  · simp only [← Library.lookedUp_registered, Library.isParsed, hl.template]
    cases Library.registered? kind rs with
    | none => simp
    | some markup => cases Library.lookedUp kind rs <;> simp
  · intro spec container hr
    rw [Desktop.instantiate_eq hr, hl.fragment_eq]
    cases m.desktop.frameOf spec ((Library.registered? spec.kind rs).map Fragment.parse) with
    | error e => exact ⟨rfl, fun f hf => by cases hf⟩
    | ok f =>
      refine ⟨rfl, fun f' hf => ?_⟩
      cases hf
      rfl

/-- A host that registers a kind twice, and creates a window of it each time. -/
def registerTwice : Program :=
  .then_ (.registerTemplate "note" "<p>one</p>") (.create [.passive { kind := "note" }] fun _ =>
    .then_ (.registerTemplate "note" "<b>two") (.create [.passive { kind := "note" }] fun _ => .accept))

/-- A desktop that knows no kind of panel. -/
def Desktop.unstocked : Desktop := { page := .ofViewport ⟨800, 600⟩ }

theorem history_transparent_registerTwice :
    Desktop.unstocked.library = {} ∧
      ∃ m rs, History .unstocked m rs ∧ Transparent m.desktop rs ∧ Library.registered? "note" rs = some "<b>two" ∧
        m.desktop.ids = [⟨1⟩] ∧ m.desktop.library.isParsed "note" = false ∧
        (m.desktop.library.fragment "note").2 = some (.error (.unclosed "b")) := by
  -- The window was created before the second registration.
  have hsteps : History .unstocked _ _ := History.steps (.begin registerTwice) 7
  have hasked := (hsteps.ask (.registerPreset "note" "usual" .null)).ask (.fragment "form")
  exact ⟨rfl, _, _, hasked, history_transparent rfl hasked, by decide +kernel⟩

end FloatingPanels

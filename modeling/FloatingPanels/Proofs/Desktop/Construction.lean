import FloatingPanels.Desktop.Construction
import FloatingPanels.Proofs.Desktop.Basic
/-!
# Effects of creations

The three parts of a creation: a window is added, its construction hook is concluded,
and it is completed or gone.
-/

namespace FloatingPanels.Desktop

variable {d : Desktop}

/-! ## What the parts of a creation come to -/

/-- At most the template is read, or a window with a new frame is added as well. -/
theorem instantiate_cases (d : Desktop) (spec : WindowSpec) :
    (∃ library e, d.instantiate spec = ({ d with library }, .error e)) ∨
      ∃ library content container f, d.page.resolve spec.parent = some container ∧
        d.newFrame spec content = .ok f ∧
        d.instantiate spec =
          ((({ d with library } : Desktop).add spec container f).1, .ok (({ d with library } : Desktop).add spec container f).2) := by
  unfold instantiate
  cases hr : d.page.resolve spec.parent with
  | none => exact .inl ⟨d.library, _, rfl⟩
  | some container =>
    dsimp only
    cases d.library.fragment spec.kind with
    | mk library content =>
      rcases content with _ | _ | content
      · exact .inl ⟨library, _, rfl⟩
      · exact .inl ⟨library, _, rfl⟩
      · dsimp only
        cases hf : newFrame { d with library } spec content with
        | error e => exact .inl ⟨library, e, rfl⟩
        | ok f => exact .inr ⟨library, content, container, f, rfl, hf, rfl⟩

/-- Whether it could be placed or not, a window is completed if it is live: what holds of
the desktop before, and is kept where the window is placed and where it is completed, holds
afterwards. -/
theorem complete_keeps {P : Desktop → Prop} {id : WindowId} {spec : WindowSpec} (hd : P d)
    (hplace : ∀ anchor d₁, spec.under = some anchor → d.placeUnder id anchor = .ok d₁ → P d₁)
    (hmark : ∀ d₁ : Desktop, d₁.isLive id → P d₁ →
      P { (d₁.change id fun w => { w with constructed := true }) with lastCreated := some id }) :
    P (d.complete id spec).1 := by
  have finish : ∀ d₁ : Desktop, P d₁ → P (if d₁.isLive id then
      ({ (d₁.change id fun w => { w with constructed := true }) with lastCreated := some id }, Except.ok id)
      else (d₁, Except.error (CreateError.destroyed spec.kind)) : Desktop × Created).1 := by
    intro d₁ h
    split
    · exact hmark d₁ ‹_› h
    · exact h
  unfold complete
  refine finish _ ?_
  cases hu : spec.under with
  | none => exact hd
  | some anchor =>
    dsimp only
    cases hp : d.placeUnder id anchor with
    | ok d₁ => exact hplace anchor d₁ hu hp
    | error e => exact hd

/-- A window whose construction hook is concluded is discarded or not. -/
theorem concludeHook_keeps {P : Desktop → Prop} {id : WindowId} (kind : String) (v : Verdict) (hd : P d)
    (hdiscard : P (d.discard id)) : P (d.concludeHook id kind v).1 := by
  unfold concludeHook
  split
  · exact hd
  · split
    · exact hd
    · exact hdiscard
    · exact hdiscard

/-! ## Effects -/

theorem effect_discard (d : Desktop) (id : WindowId) : Effect d (d.discard id) none none := by
  unfold discard
  split
  · rename_i w hw
    exact effect_remove (mem_of_window? hw).1
  · exact effect_refl d

/-- A container that a request is resolved to is on the page. -/
theorem resolve_mem {p : Page} {requested : Option String} {container : String}
    (h : p.resolve requested = some container) : container ∈ p.children.map Prod.fst := by
  rw [Page.children_names, ← Keyed.hasKey_iff]
  exact (Option.filter_eq_some_iff.1 h).2

theorem effect_add (hs : Sound d) (library : Library) (spec : WindowSpec) {container : String} (f : Frame)
    (hc : container ∈ d.page.children.map Prod.fst) :
    Effect d (({ d with library } : Desktop).add spec container f).1 none (some (⟨d.issued + 1⟩, container)) := by
  have hid : (newWindow { d with library } spec container f).id = ⟨d.issued + 1⟩ := rfl
  refine .add (e := (newWindow { d with library } spec container f).entry) hid rfl hc ?_
    (Page.children_attach d.page container _) rfl rfl rfl rfl rfl fun s h => ?_
  · simp only [add, entries, List.map_append]
    rfl
  · exact h.add (hid ▸ hs.isLive_new) rfl rfl

/-- The window that a creation registers, and the container that it is created into. -/
def registers (d : Desktop) (spec : WindowSpec) : Option (WindowId × String) :=
  match (d.instantiate spec).2 with
  | .ok id => (d.page.resolve spec.parent).map fun container => (id, container)
  | .error _ => none

theorem effect_instantiate (hs : Sound d) (spec : WindowSpec) : Effect d (d.instantiate spec).1 none (d.registers spec) := by
  obtain ⟨library, e, h⟩ | ⟨library, content, container, f, hr, -, h⟩ := d.instantiate_cases spec
  · simp only [registers, h]
    exact .alike (alike_of_same rfl rfl rfl rfl rfl rfl rfl)
  · simp only [registers, h, hr]
    exact effect_add hs library spec f (resolve_mem hr)

theorem effect_concludeHook (d : Desktop) (id : WindowId) (kind : String) (v : Verdict) :
    Effect d (d.concludeHook id kind v).1 none none :=
  concludeHook_keeps (P := fun d' => Effect d d' none none) kind v (effect_refl d) (effect_discard d id)

theorem alike_complete (d : Desktop) (id : WindowId) (spec : WindowSpec) : Alike d (d.complete id spec).1 none := by
  refine complete_keeps (.refl d) (fun _ _ _ h => alike_placeUnder h) fun d₁ hl h => ?_
  have hc : Alike d₁ (d₁.change id fun w => { w with constructed := true }) none :=
    alike_change (fun _ => ⟨rfl, rfl⟩) fun _ _ _ => rfl
  refine h.trans (hc.trans ⟨rfl, rfl, rfl, rfl, rfl, .inl rfl, .inr fun i hi => ?_, fun _ h => h.congr rfl⟩)
  rw [hc.isLive, ← Option.some.inj hi]
  exact hl

end FloatingPanels.Desktop

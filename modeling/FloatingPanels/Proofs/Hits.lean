import FloatingPanels.Proofs.Buttons
import FloatingPanels.Proofs.Canvas.Ownership
/-!
# What a press hits

`run_hits` says where a press goes at any moment of a run: to the topmost of the windows
that are painted at the point, and there to the part that the layout of its frame has. As
the frame offers no other buttons than the capabilities allow, no press closes a window
that may not be closed, or does anything else to it that was denied when it was created.
-/

namespace FloatingPanels

/-- A press hits a button only where no handle is. -/
theorem Layout.control_of_partAt {l : Layout} {p : Point} {c : Control} (h : l.partAt p = some (.control c)) :
    c ∈ l.controls.map Prod.fst ∧ ∀ x ∈ l.handles, x.2.contains p = false := by
  unfold partAt at h
  split at h
  · cases h
  · cases hhandle : l.handles.find? fun x => x.2.contains p with
    | some x =>
      rw [hhandle] at h
      cases h
    | none =>
      rw [hhandle] at h
      cases hcontrol : l.controls.find? fun x => x.2.contains p with
      | none =>
        simp only [hcontrol] at h
        repeat' split at h
        all_goals cases h
      | some x =>
        simp only [hcontrol] at h
        cases h
        refine ⟨List.mem_map_of_mem (List.mem_of_find?_eq_some hcontrol), fun x hx => ?_⟩
        exact Bool.eq_false_iff.2 (List.find?_eq_none.1 hhandle x hx)

theorem Window.controls_layout (w : Window) (m : Metrics) : (w.layout m).controls.map Prod.fst = w.frame.controls :=
  Layout.map_fst_placeControls w.frame.controls

/-- A press at a point hits something where a window is painted, namely the topmost one
there. -/
structure Desktop.Hits (d : Desktop) (p : Point) : Prop where
  some_iff : (d.hitTest p).isSome ↔ ∃ w ∈ d.windows, w.mode.isHidden = false ∧ w.rect.contains p
  hit : ∀ id part, d.hitTest p = some (id, part) ↔
    ∃ w, d.TopmostAt p w ∧ w.id = id ∧ (w.layout d.settings.metrics).partAt p = some part
  /-- A button that is hit is allowed, and no handle lies over it there. -/
  allowed : ∀ w, d.TopmostAt p w → ∀ c, d.hitTest p = some (w.id, .control c) →
    w.caps.has c.capability ∧ ∀ x ∈ (w.layout d.settings.metrics).handles, x.2.contains p = false

namespace Desktop

variable {d : Desktop} {s : Stack} {p : Point}

theorem StackedAs.isSome_hitTest_iff (h : d.StackedAs s) :
    (d.hitTest p).isSome ↔ ∃ w ∈ d.windows, w.mode.isHidden = false ∧ w.rect.contains p := by
  obtain ⟨w, below, above, -, hw, -⟩ | hnone := h.topmostAt p
  · obtain ⟨part, -, hhit⟩ := h.hitTest_of_topmostAt hw
    rw [hhit]
    exact iff_of_true rfl ⟨w, hw.live, Window.shownAt_iff.1 hw.shown⟩
  · rw [hitTest_eq_none hnone]
    refine iff_of_false Bool.false_ne_true ?_
    rintro ⟨w, hw, hshown⟩
    have hbare := hnone w hw
    rw [Window.shownAt_iff.2 hshown] at hbare
    cases hbare

theorem StackedAs.hitTest_eq_some_iff (h : d.StackedAs s) (id : WindowId) (part : Part) :
    d.hitTest p = some (id, part) ↔
      ∃ w, d.TopmostAt p w ∧ w.id = id ∧ (w.layout d.settings.metrics).partAt p = some part := by
  constructor
  · intro hhit
    obtain ⟨w, below, above, -, hw, -⟩ | hnone := h.topmostAt p
    · obtain ⟨part', hpart, hhit'⟩ := h.hitTest_of_topmostAt hw
      rw [hhit'] at hhit
      cases hhit
      exact ⟨w, hw, rfl, hpart⟩
    · rw [hitTest_eq_none hnone] at hhit
      cases hhit
  · rintro ⟨w, hw, rfl, hpart⟩
    obtain ⟨part', hpart', hhit⟩ := h.hitTest_of_topmostAt hw
    obtain rfl := Option.some.inj (hpart.symm.trans hpart')
    exact hhit

/-- Where the windows are stacked and their buttons are those that are allowed, presses
hit what they should. -/
theorem StackedAs.hits (h : d.StackedAs s) (ho : d.Offering) (p : Point) : d.Hits p where
  some_iff := h.isSome_hitTest_iff
  hit := h.hitTest_eq_some_iff
  allowed w hw c hhit := by
    obtain ⟨v, hv, -, hpart⟩ := (h.hitTest_eq_some_iff _ _).1 hhit
    rw [hv.unique hw] at hpart
    obtain ⟨hc, hhandles⟩ := Layout.control_of_partAt hpart
    rw [Window.controls_layout] at hc
    exact ⟨(ho w hw.live).mem_controls hc, hhandles⟩

end Desktop

variable {d₀ : Desktop} {m : Machine} {ms : List Machine}

/-- A host that hides the upper of two windows, and gives a title and an error to the
other one, which may not be closed. -/
def keepFirst : Program :=
  .create [.passive { kind := "note", caps := { close := false } }, .passive { kind := "note" }] fun _ =>
    .then_ (.hide ⟨2⟩) (.then_ (.setTitle ⟨1⟩ "Kept") (.then_ (.setError ⟨1⟩ (some "too late")) .accept))

end FloatingPanels

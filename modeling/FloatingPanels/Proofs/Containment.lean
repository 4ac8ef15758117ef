import FloatingPanels.Proofs.Filling
import FloatingPanels.Proofs.Resize
/-!
# Containment

On a page whose only container follows the viewport, all windows start on the page and
end in the viewport, unless they are wider than it. `run_containment` says so for every
moment of every run in which nothing was done that does not look at the viewport:
windows are fitted where they have the room, resized from rectangles that leave room for
the least size, and the viewport changes while no window has a rectangle to go back to
that does not fit in the new one. Without that a window can leave the page:
`run_containment_fails_fitted`.
-/

namespace FloatingPanels

/-- The rectangle that a window can go back to: what it has to restore, or where the
resize began that is going on. -/
def Mode.kept? : Mode → Option Rect
  | .resizing g => some g.rect
  | mode => mode.saved?

theorem Mode.kept?_ofRestore (restore : Option Rect) : (ofRestore restore).kept? = restore := by
  cases restore <;> rfl

theorem Mode.kept?_of_atRest {mode : Mode} {restore : Option Rect} (h : mode.atRest = some restore) :
    mode.kept? = restore := by
  cases mode with
  | normal => exact Option.some.inj h
  | maximized saved => exact Option.some.inj h
  | _ => cases h

/-- A window of this mode and rectangle is in a viewport of this width, and so is what
it can go back to. -/
structure Mode.Contained (viewport : Int) (mode : Mode) (rect : Rect) : Prop where
  rect : rect.Within viewport
  kept : ∀ r, mode.kept? = some r → r.Within viewport

namespace Desktop

variable {d d' : Desktop} {w : Window} {mode : Mode} {rect : Rect}

/-- Whether a resize of a window stays in the viewport wherever the pointer goes. -/
def resizesInside (d : Desktop) (w : Window) : Bool :=
  match w.mode with
  | .resizing g =>
    g.Fits d.page.viewport.width d.settings.least &&
      (!w.caps.cling || (d.clingRects w.id).all fun r => r.Narrow d.page.viewport.width)
  | _ => true

/-- Whether an action leaves windows in the viewport that are in it. -/
def keepsInside (d : Desktop) : Action → Bool
  | .fit id h => (d.window? id).all fun w => (d.fitRect w h).Within d.page.viewport.width
  | .pointerMove _ => (d.gesture.bind d.window?).all d.resizesInside
  | .setViewport s => d.windows.all fun w => w.mode.kept?.all fun r => r.Within s.width
  | _ => true

/-- The page has one container, which follows the viewport. -/
def Follows (d : Desktop) : Prop := d.ground.rects = [(Page.mainContainer, Page.viewportRect d.ground.viewport)]

structure Contained (d : Desktop) : Prop where
  follows : d.Follows
  windows : ∀ id w, d.window? id = some w → w.mode.Contained d.ground.viewport.width w.rect

theorem Follows.fill (h : d.Follows) (container : String) :
    d.ground.fill container = Page.viewportRect d.ground.viewport := by
  rw [Ground.fill, show d.ground.rects = _ from h, Keyed.value?_cons]
  split <;> rfl

theorem Follows.setViewport (h : d.Follows) {s : Size} (hv : d'.page = d.page.setViewport s) : d'.Follows := by
  have hr := d.page.rects_setViewport s
  rw [show d.page.rects = _ from h] at hr
  simp only [Follows, ground, hv, hr, List.map_cons, List.map_nil, if_true]
  rfl

theorem within_viewportRect (s : Size) : (Page.viewportRect s).Within s.width :=
  ⟨Int.le_refl 0, Int.le_refl 0, fun _ => by simp [Page.viewportRect, Rect.right]⟩

/-! ## The pointer -/

theorem dragTo_contained (d : Desktop) (w : Window) (g : Drag) (p : Point) :
    (d.dragTo w g p).mode.Contained d.page.viewport.width (d.dragTo w g p).rect := by
  constructor
  · simp only [dragTo]
    split
    · split <;> exact Rect.within_clamp _ _
    · exact Rect.within_clamp _ _
  · intro r hr
    -- A drag has nothing to go back to once it has moved.
    have hnone : (d.dragTo w g p).mode.kept? = none := d.dragTo_saved? w g p
    rw [hnone] at hr
    cases hr

theorem resizeTo_within (hs : Sound d) (hc : Contained d) (hw : d.window? w.id = some w) {g : Resize}
    (hm : w.mode = .resizing g) (hr : d.resizesInside w) (p : Point) :
    (d.resizeTo w g p).rect.Within d.page.viewport.width := by
  have hg : g.rect.Within d.page.viewport.width := (hc.windows w.id w hw).kept g.rect (by rw [hm]; rfl)
  simp only [resizesInside, hm, Bool.and_eq_true, decide_eq_true_eq, Bool.or_eq_true, Bool.not_eq_true',
    List.all_eq_true] at hr
  obtain ⟨hf, hcling⟩ := hr
  simp only [resizeTo]
  split
  · rename_i hyes
    split
    · rename_i s hsnap
      refine Resize.snap_within p hg hf (fun o ho => ⟨?_, hcling.resolve_left (by simp [hyes]) o ho⟩) hsnap
      obtain ⟨v, hv, rfl⟩ := List.mem_map.1 ho
      exact (hc.windows v.id v (hs.window?_of_mem (List.mem_filter.1 hv).1)).rect
    · exact Resize.candidate_within p hg hf
  · exact Resize.candidate_within p hg hf

/-! ## One step -/

theorem Turn.contained {a : Action} (h : Turn d w a mode rect) (hs : Sound d) (hc : Contained d)
    (hw : d.window? w.id = some w) (ha : d.keepsInside a) : mode.Contained d.ground.viewport.width rect := by
  obtain ⟨hrect, hkept⟩ := hc.windows w.id w hw
  cases h with
  | fill _ _ =>
    refine ⟨?_, fun r hr => Option.some.inj hr ▸ hrect⟩
    rw [fillRect_eq, hc.follows.fill]
    exact within_viewportRect _
  | normalize _ hm _ => exact ⟨hkept rect (by rw [hm]; rfl), nofun⟩
  | hide hr _ => exact ⟨hrect, fun r h => hkept r ((Mode.kept?_of_atRest hr).trans h)⟩
  | reveal _ hm _ =>
    refine ⟨hrect, fun r h => hkept r ?_⟩
    rw [Mode.kept?_ofRestore] at h
    rw [hm]
    exact h
  | stick _ hr _ => exact ⟨hrect, fun r h => hkept r ((Mode.kept?_of_atRest hr).trans h)⟩
  | unstick _ hm =>
    refine ⟨hrect, fun r h => hkept r ?_⟩
    rw [Mode.kept?_ofRestore] at h
    rw [hm]
    exact h
  | fit _ _ =>
    simp only [keepsInside, hw, Option.all_some, decide_eq_true_eq] at ha
    exact ⟨ha, hkept⟩
  | place _ => exact ⟨Rect.within_clamp _ _, hkept⟩
  | drag _ _ => exact dragTo_contained d w _ _
  | resize hg hm =>
    simp only [keepsInside, hg, Option.bind_some, hw, Option.all_some] at ha
    exact ⟨resizeTo_within hs hc hw hm ha _, hkept⟩

theorem Grip.contained {a : Action} (h : Grip w a mode) {viewport : Int} (hc : w.mode.Contained viewport w.rect) :
    mode.Contained viewport w.rect := by
  refine ⟨hc.rect, fun r hr => ?_⟩
  cases h with
  | resize _ _ _ => exact Option.some.inj hr ▸ hc.rect
  | drag _ _ =>
    cases hw : w.mode with
    | maximized saved =>
      rw [hw] at hr
      exact hc.kept r (by rw [hw]; exact hr)
    | _ => rw [hw] at hr; cases hr

theorem released_kept? {r : Rect} (h : (Mode.released mode).kept? = some r) : mode.kept? = some r := by
  cases mode with
  | dragging g => exact (Mode.kept?_ofRestore g.restore).symm.trans h
  | resizing g => cases h
  | _ => exact h

theorem settledRect_within (hs : Sound d) (hw : d.window? w.id = some w) {s : Size} (hf : d'.Follows)
    (hv : d'.page = d.page.setViewport s) : (settledRect d'.page w).Within d'.ground.viewport.width := by
  cases hm : w.mode with
  | maximized saved =>
    rw [settledRect_maximized hs hw hm hv, hf.fill]
    exact within_viewportRect _
  | _ =>
    simp only [settledRect, hm]
    exact Rect.within_clamp _ _

theorem Fate.contained {a : Option Action} (h : Fate d a d' w mode rect) (hs : Sound d) (hc : Contained d)
    (hf : d'.Follows) (hw : d.window? w.id = some w) (ha : ∀ b ∈ a, d.keepsInside b) :
    mode.Contained d'.ground.viewport.width rect := by
  have hold := hc.windows w.id w hw
  cases h with
  | keep hg =>
    rw [hg]
    exact hold
  | turn hb ht hg =>
    rw [hg]
    exact ht.contained hs hc hw (ha _ hb)
  | grip _ _ ht hg =>
    rw [hg]
    exact ht.contained hold
  | release _ _ hg =>
    rw [hg]
    exact ⟨hold.rect, fun r h => hold.kept r (released_kept? h)⟩
  | @settle s hb hv =>
    refine ⟨settledRect_within hs hw hf hv, fun r h => ?_⟩
    have hall := ha _ hb
    simp only [keepsInside, List.all_eq_true, Option.all_eq_true, decide_eq_true_eq] at hall
    have hsize : d'.ground.viewport = s := by
      rw [ground, hv]
      rfl
    rw [hsize]
    exact hall w (mem_of_window? hw).1 r h

theorem Shift.contained {a : Option Action} (h : Shift d a d') (hs : Sound d) (hc : Contained d)
    (ha : ∀ b ∈ a, d.keepsInside b) : Contained d' := by
  have hfollows : d'.Follows := by
    rcases h.ground with hg | ⟨s, -, hv, -⟩
    · rw [Follows, hg]
      exact hc.follows
    · exact hc.follows.setViewport hv
  refine ⟨hfollows, fun id w' hw' => ?_⟩
  rcases h.fate (posture?_of_window? hw') with ⟨w, hw, -, -, hf⟩ | ⟨-, hm, hr, hg⟩
  · obtain ⟨-, rfl⟩ := mem_of_window? hw
    exact hf.contained hs hc hfollows hw ha
  · -- A new window was clamped.
    rw [hg]
    refine ⟨(show w'.rect.clamp _ = w'.rect from hr) ▸ Rect.within_clamp _ _, fun r h => ?_⟩
    rw [show w'.mode = .normal from hm] at h
    cases h

end Desktop

variable {d₀ : Desktop} {m : Machine} {ms : List Machine}

/-- On a page with the one container that follows the viewport, all windows stay in the
viewport as long as every action keeps them there. -/
theorem run_containment (h₀ : d₀.IsNew)
    (hp : d₀.page.containers = [(Page.mainContainer, { rect := Page.viewportRect d₀.page.viewport })])
    (h : Run d₀ (m :: ms)) (hk : ∀ n ∈ ms, ∀ a ∈ n.deed?, n.desktop.keepsInside a) :
    ∀ w ∈ m.desktop.windows, w.rect.Within m.desktop.page.viewport.width := by
  have hc : m.desktop.Contained := by
    refine run_keeps h₀ ⟨?_, fun id w hw => ?_⟩ (fun hs hq hd hc => hd.contained hs hc hq) h hk
    · rw [Desktop.Follows, Desktop.ground, Page.rects, hp]
      rfl
    · rw [Desktop.window?, h₀.windows] at hw
      cases hw
  intro w hw
  exact (hc.windows w.id w ((run_sound h₀ h).window?_of_mem hw)).rect

/-- A host that drags a window to the right end of the viewport, makes another one
larger there, and then changes the viewport. -/
def resizeBesideAnother : Program :=
  .create [.passive { kind := "note" }, .passive { kind := "note" }] fun _ =>
    .then_ (.beginDrag ⟨1⟩ ⟨5, 5⟩) (.then_ (.pointerMove ⟨2000, 5⟩) (.then_ .pointerUp
      (.then_ (.beginResize ⟨2⟩ .bottomRight ⟨50, 60⟩) (.then_ (.pointerMove ⟨720, 100⟩) (.then_ .pointerUp
        (.then_ (.setViewport ⟨400, 300⟩) .accept))))))

theorem run_containment_resizeBesideAnother :
    let s := Machine.start { desktop := .plain } resizeBesideAnother
    Desktop.plain.IsNew ∧
      Desktop.plain.page.containers = [(Page.mainContainer, { rect := Page.viewportRect Desktop.plain.page.viewport })] ∧
      (∀ n ∈ Machine.moments s 15, ∀ a ∈ n.deed?, n.desktop.keepsInside a) ∧
      (∀ w ∈ (Machine.step^[16] s).desktop.windows,
        w.rect.Within (Machine.step^[16] s).desktop.page.viewport.width) ∧
      (Machine.step^[16] s).desktop.windows.map Window.rect = [⟨350, 0, 50, 62⟩, ⟨0, 0, 750, 62⟩] := by
  intro s
  have hk : ∀ n ∈ Machine.moments s 15, ∀ a ∈ n.deed?, n.desktop.keepsInside a := by decide +kernel
  have hrun : Run .plain (Machine.step^[16] s :: Machine.moments s 15) := Run.moments resizeBesideAnother 16
  exact ⟨Desktop.isNew_plain, rfl, hk, run_containment Desktop.isNew_plain rfl hrun hk, by decide +kernel⟩

/-- A host that fits a window to its content, which makes it narrower than the least
size, and then pulls its left side. -/
def resizeFitted : Program :=
  .create [.passive { kind := "note" }] fun _ => .then_ (.fit ⟨1⟩ .left)
    (.then_ (.beginResize ⟨1⟩ .left ⟨0, 30⟩) (.then_ (.pointerMove ⟨0, 30⟩) .accept))

/-- A window can leave the page: when it is narrower than the least size, a move of its
left handle makes room on the left. -/
theorem run_containment_fails_fitted :
    let s := Machine.start { desktop := .plain } resizeFitted
    Desktop.plain.IsNew ∧ Desktop.plain.settings = {} ∧
      Desktop.plain.page.containers = [(Page.mainContainer, { rect := Page.viewportRect Desktop.plain.page.viewport })] ∧
      Run .plain (Machine.moments s 8) ∧
      ∃ w ∈ (Machine.step^[8] s).desktop.windows, w.rect.left < 0 := by
  intro s
  exact ⟨Desktop.isNew_plain, rfl, rfl, Run.moments resizeFitted 8, by decide +kernel⟩

end FloatingPanels

import FloatingPanels.Canvas.Picture
import FloatingPanels.Desktop.Pointer
import FloatingPanels.Proofs.Canvas.Stroke
import FloatingPanels.Proofs.Frame.Tiling
import FloatingPanels.Proofs.Stacking
/-!
# Who owns a cell

A cell that windows cover belongs to the topmost of them: its character is the one that
this window puts there, and a press on it goes to this window. Two things make it so. The
strokes of a window stay within its rectangle, and the first of them covers all of it.
-/

namespace FloatingPanels

/-! ## Strokes within a rectangle -/

/-- The first row of a rectangle, or the row where it would begin. -/
def Rect.firstRow (r : Rect) : Rect := { r with height := 1 }

namespace Stroke

/-- The strokes cover no point outside a rectangle. -/
def Inside (ss : List Stroke) (r : Rect) : Prop := ∀ s ∈ ss, s.area.Inside r

theorem Inside.append {ss ss' : List Stroke} {r : Rect} (h : Inside ss r) (h' : Inside ss' r) : Inside (ss ++ ss') r := by
  intro s hs
  rcases List.mem_append.1 hs with hs | hs
  · exact h s hs
  · exact h' s hs

theorem Inside.mono {ss : List Stroke} {r r' : Rect} (h : Inside ss r) (hr : r.Inside r') : Inside ss r' :=
  fun s hs p hp => hr p (h s hs p hp)

theorem Inside.cons {s : Stroke} {ss : List Stroke} {r : Rect} (h : s.area.Inside r) (h' : Inside ss r) :
    Inside (s :: ss) r := List.forall_mem_cons.2 ⟨h, h'⟩

theorem inside_nil (r : Rect) : Inside [] r := by
  intro s hs
  cases hs

/-- A text lies in a rectangle when its row does, as far as the text may go. -/
theorem inside_text {x y width : Int} {s : String} {style : Style} {r : Rect}
    (h : Rect.Inside ⟨x, y, width, 1⟩ r) : (text x y width s style).area.Inside r := by
  intro p hp
  refine h p ?_
  simp only [text, Rect.contains_iff, Rect.right, Rect.bottom] at hp ⊢
  omega

theorem inside_border (r : Rect) (style : Style) : Inside (border r style) r := by
  intro s hs p hp
  unfold border at hs
  split at hs
  · cases hs
  · rename_i hsize
    simp only [Bool.or_eq_true, decide_eq_true_eq, not_or] at hsize
    simp only [List.mem_cons, List.not_mem_nil, or_false] at hs
    rw [Rect.contains_iff]
    rcases hs with rfl | rfl | rfl | rfl | rfl | rfl | rfl | rfl <;>
      simp only [fill, Rect.contains_iff, Rect.right, Rect.bottom] at hp ⊢ <;> omega

theorem inside_lines (r : Rect) (texts : List String) (style : Style) : Inside (Picture.lines r texts style) r := by
  intro s hs
  obtain ⟨i, hi, rfl⟩ := List.mem_mapIdx.1 hs
  rw [List.length_take] at hi
  refine inside_text fun p hp => ?_
  simp only [Rect.contains_iff, Rect.right, Rect.bottom] at hp ⊢
  omega

/-- What a stroke draws, apart from its style. -/
def shape (s : Stroke) : Rect × (Point → Char) := (s.area, s.symbol)

theorem top_symbol_congr {ss ss' : List Stroke} (h : ss.map shape = ss'.map shape) (p : Point) :
    top (fun s => some (s.symbol p)) p ss = top (fun s => some (s.symbol p)) p ss' := by
  have hshape : ∀ ss : List Stroke, top (fun s => some (s.symbol p)) p ss =
      (ss.map shape).reverse.findSome? fun a => if a.1.contains p then some (a.2 p) else none := by
    intro ss
    rw [← List.map_reverse, List.findSome?_map]
    rfl
  rw [hshape, h, ← hshape]

/-- Strokes within a rectangle leave all points outside it alone. -/
theorem Inside.covers_eq_false {ss : List Stroke} {r : Rect} (h : Inside ss r) {p : Point} (hp : r.contains p = false) :
    ∀ s ∈ ss, s.covers p = false := by
  intro s hs
  rw [Bool.eq_false_iff] at hp ⊢
  exact fun hc => hp (h s hs p hc)

end Stroke

namespace Layout

/-- What is painted of a layout lies in its rectangle. Title, buttons and footer are
painted in one row, whatever their height. -/
structure Confined (l : Layout) : Prop where
  header : l.header.Inside l.outer
  title : l.title.firstRow.Inside l.outer
  controls : ∀ b ∈ l.controls, b.2.firstRow.Inside l.outer
  content : l.content.Inside l.outer
  footer : l.footer.firstRow.Inside l.outer

/-- In cells, a window that has room for its border has room for all that is painted. -/
theorem confined_cells {r : Rect} (hw : 2 ≤ r.width) (hh : 2 ≤ r.height) (cs : List Control) :
    (ofControls r .cells cs).Confined := by
  have hparts := parts_inside Metrics.nonneg_cells r cs
  have hheader : (ofControls r .cells cs).header.left ≤ (ofControls r .cells cs).header.right := by
    simp only [ofControls, Metrics.cells, Rect.right]
    omega
  obtain ⟨⟨hl, hr⟩, hall⟩ := placeControls_between Metrics.nonneg_cells.buttonWidth hheader cs
  constructor
  · exact hparts _ List.mem_cons_self
  · intro p hp
    simp only [ofControls, Metrics.cells, Rect.firstRow, Rect.contains_iff, Rect.right, Rect.bottom] at hp hl hr ⊢
    omega
  · intro b hb p hp
    obtain ⟨hleft, hright, htop, -⟩ := hall b hb
    simp only [ofControls, Metrics.cells, Rect.firstRow, Rect.contains_iff, Rect.right, Rect.bottom] at *
    omega
  · exact hparts _ (List.mem_cons_of_mem _ List.mem_cons_self)
  · intro p hp
    simp only [ofControls, Metrics.cells, Rect.firstRow, Rect.contains_iff, Rect.right, Rect.bottom] at hp ⊢
    omega

/-- A press finds a part of a window wherever it hits the window. -/
theorem partAt_isSome (l : Layout) (p : Point) : (l.partAt p).isSome = l.outer.contains p := by
  unfold partAt
  cases l.outer.contains p with
  | false => rfl
  | true =>
    simp only [Bool.not_true, Bool.false_eq_true, if_false]
    repeat' split
    all_goals rfl

end Layout

namespace Picture

theorem inside_window (t : Theme) {m : Metrics} (topmost : Bool) {w : Window} (h : (w.layout m).Confined) :
    Stroke.Inside (window t m topmost w) w.rect := by
  refine .append (.append (.append (.append (.append ?ground ?border) ?header) ?controls) ?content) ?error
  case ground => exact .cons (fun p hp => hp) (Stroke.inside_nil _)
  case border => exact Stroke.inside_border _ _
  case header => exact .cons h.header (.cons (Stroke.inside_text h.title) (Stroke.inside_nil _))
  case controls =>
    intro s hs
    obtain ⟨b, hb, rfl⟩ := List.mem_map.1 hs
    exact Stroke.inside_text (h.controls b hb)
  case content => exact (Stroke.inside_lines _ _ _).mono h.content
  case error =>
    split
    · exact .cons (Stroke.inside_text h.footer) (Stroke.inside_nil _)
    · exact Stroke.inside_nil _

/-- Which cells the strokes of a window cover, and with which characters, is not up to
the theme. -/
theorem shape_window (t t' : Theme) (m : Metrics) (topmost topmost' : Bool) (w : Window) :
    (window t m topmost w).map Stroke.shape = (window t' m topmost' w).map Stroke.shape := by
  simp only [window, List.map_append]
  refine congrArg₂ _ (congrArg₂ _ (congrArg₂ _ (congrArg₂ _ (congrArg₂ _ rfl ?border) rfl) ?controls) ?content) ?error
  case border =>
    unfold Stroke.border
    split <;> rfl
  case controls =>
    rw [List.map_map, List.map_map]
    rfl
  case content =>
    refine List.ext_getElem? fun i => ?_
    simp only [lines, List.getElem?_map, List.getElem?_mapIdx, Option.map_map]
    rfl
  case error => cases w.frame.error <;> rfl

end Picture

/-! ## The topmost window over a point -/

namespace Window

/-- The window is painted at the point. -/
def shownAt (w : Window) (p : Point) : Bool := !w.mode.isHidden && w.rect.contains p

/-- What a press at a point hits of one window. -/
def hit? (m : Metrics) (p : Point) (w : Window) : Option (WindowId × Part) :=
  if w.mode.isHidden then none else ((w.layout m).partAt p).map fun part => (w.id, part)

variable (m : Metrics) {p : Point} {w : Window}

theorem shownAt_iff : w.shownAt p ↔ w.mode.isHidden = false ∧ w.rect.contains p := by
  rw [shownAt, Bool.and_eq_true, Bool.not_eq_true']

/-- A press hits a window where it is painted. -/
theorem hit?_of_shownAt (h : w.shownAt p) :
    ∃ part, (w.layout m).partAt p = some part ∧ w.hit? m p = some (w.id, part) := by
  obtain ⟨hshown, hcovers⟩ := shownAt_iff.1 h
  have hpart : ((w.layout m).partAt p).isSome := (Layout.partAt_isSome _ _).trans hcovers
  obtain ⟨part, hpart⟩ := Option.isSome_iff_exists.1 hpart
  exact ⟨part, hpart, by rw [hit?, hshown, if_neg Bool.false_ne_true, hpart, Option.map_some]⟩

theorem hit?_eq_none (h : w.shownAt p = false) : w.hit? m p = none := by
  cases hhidden : w.mode.isHidden with
  | true => rw [hit?, hhidden, if_pos rfl]
  | false =>
    rw [shownAt, hhidden, Bool.not_false, Bool.true_and] at h
    have hpart : (w.layout m).partAt p = none := by
      rw [← Option.not_isSome_iff_eq_none, Layout.partAt_isSome]
      exact Bool.eq_false_iff.1 h
    rw [hit?, hpart, Option.map_none, ite_self]

end Window

namespace Desktop

/-- Every window that is painted has room for its border. -/
def Roomy (d : Desktop) : Prop :=
  ∀ w ∈ d.windows, w.mode.isHidden = false → 2 ≤ w.rect.width ∧ 2 ≤ w.rect.height

instance (d : Desktop) : Decidable d.Roomy := inferInstanceAs (Decidable (∀ w ∈ d.windows, _))

/-- The window is painted at the point, and any other that is painted there is lower. -/
structure TopmostAt (d : Desktop) (p : Point) (w : Window) : Prop where
  live : w ∈ d.windows
  shown : w.shownAt p
  highest : ∀ v ∈ d.windows, v.shownAt p → v = w ∨ v.z < w.z

variable {d : Desktop} {s : Stack} {p : Point} {w : Window}

theorem mem_stacked : w ∈ d.stacked ↔ w ∈ d.windows := (List.mergeSort_perm _ _).mem_iff

/-- Only one window is the topmost at a point. -/
theorem TopmostAt.unique {v : Window} (hv : d.TopmostAt p v) (hw : d.TopmostAt p w) : v = w := by
  rcases hw.highest v hv.live hv.shown with h | h
  · exact h
  · rcases hv.highest w hw.live hw.shown with h' | h'
    · exact h'.symm
    · omega

/-- Windows that stand in the order of their heights are the stack as they stand. -/
theorem stacked_of_pairwise (h : d.windows.Pairwise fun v w => v.notAbove w) : d.stacked = d.windows :=
  List.mergeSort_of_pairwise h

/-- No two windows have the same height. -/
theorem StackedAs.sorted (h : d.StackedAs s) : d.stacked.Pairwise fun v w => v.z < w.z := by
  have hz : ∀ i, (hi : i < d.stacked.length) → d.stacked[i].z = i + 1 := by
    intro i hi
    have hlen : i < d.stack.length := by rwa [Desktop.stack, List.length_map]
    have hid : d.stacked[i].id = d.stack[i] := by simp only [Desktop.stack, List.getElem_map]
    have hstack := h.stack
    subst hstack
    rw [h.height _ (mem_stacked.1 (List.getElem_mem hi)), hid, h.nodup.idxOf_getElem]
  refine List.pairwise_iff_getElem.2 fun i j hi hj hij => ?_
  rw [hz, hz]
  omega

/-- A point belongs to the last window of the stack that is painted there. -/
theorem StackedAs.topmostAt (h : d.StackedAs s) (p : Point) :
    (∃ w below above, d.stacked = below ++ w :: above ∧ d.TopmostAt p w ∧ ∀ v ∈ above, v.shownAt p = false) ∨
      ∀ w ∈ d.windows, w.shownAt p = false := by
  cases hfind : d.stacked.reverse.find? (·.shownAt p) with
  | none =>
    refine .inr fun w hw => ?_
    have := List.find?_eq_none.1 hfind w (List.mem_reverse.2 (mem_stacked.2 hw))
    rwa [Bool.not_eq_true] at this
  | some w =>
    obtain ⟨hw, upper, lower, hsplit, hupper⟩ := List.find?_eq_some_iff_append.1 hfind
    have hsplit : d.stacked = lower.reverse ++ w :: upper.reverse := by
      rw [← List.reverse_reverse d.stacked, hsplit]
      simp
    have hupper : ∀ v ∈ upper.reverse, v.shownAt p = false := by
      intro v hv
      have := hupper v (List.mem_reverse.1 hv)
      rwa [Bool.not_eq_true'] at this
    refine .inl ⟨w, lower.reverse, upper.reverse, hsplit, ⟨?_, hw, fun v hv hp => ?_⟩, hupper⟩
    · rw [← mem_stacked, hsplit]
      simp
    · have hsorted := h.sorted
      rw [← mem_stacked, hsplit] at hv
      rw [hsplit] at hsorted
      rcases List.mem_append.1 hv with hv | hv
      · exact .inr ((List.pairwise_append.1 hsorted).2.2 v hv w List.mem_cons_self)
      · rcases List.mem_cons.1 hv with rfl | hv
        · exact .inl rfl
        · rw [hupper v hv] at hp
          cases hp

/-! ### Presses -/

theorem hitTest_eq (d : Desktop) (p : Point) :
    d.hitTest p = d.stacked.reverse.findSome? (Window.hit? d.settings.metrics p) := rfl

theorem hitTest_of_top {below above : List Window} (hs : d.stacked = below ++ w :: above) (hw : w.shownAt p)
    (ha : ∀ v ∈ above, v.shownAt p = false) :
    ∃ part, (w.layout d.settings.metrics).partAt p = some part ∧ d.hitTest p = some (w.id, part) := by
  have hsplit : d.stacked.reverse = above.reverse ++ w :: below.reverse := by simp [hs]
  have habove : above.reverse.findSome? (Window.hit? d.settings.metrics p) = none :=
    List.findSome?_eq_none_iff.2 fun v hv => Window.hit?_eq_none _ (ha v (List.mem_reverse.1 hv))
  obtain ⟨part, hpart, hhit⟩ := Window.hit?_of_shownAt d.settings.metrics hw
  refine ⟨part, hpart, ?_⟩
  rw [hitTest_eq, hsplit, List.findSome?_append, habove, List.findSome?_cons, hhit]
  rfl

/-- A press goes to the topmost window, and to the part that its layout has there. -/
theorem StackedAs.hitTest_of_topmostAt (h : d.StackedAs s) (hw : d.TopmostAt p w) :
    ∃ part, (w.layout d.settings.metrics).partAt p = some part ∧ d.hitTest p = some (w.id, part) := by
  obtain ⟨v, below, above, hsplit, hv, habove⟩ | hnone := h.topmostAt p
  · rw [← hv.unique hw]
    exact hitTest_of_top hsplit hv.shown habove
  · have hbare := hnone w hw.live
    rw [hw.shown] at hbare
    cases hbare

theorem hitTest_eq_none (h : ∀ w ∈ d.windows, w.shownAt p = false) : d.hitTest p = none := by
  refine List.findSome?_eq_none_iff.2 fun w hw => Window.hit?_eq_none _ (h w ?_)
  exact mem_stacked.1 (List.mem_reverse.1 hw)

end Desktop

/-! ## Painting -/

namespace Picture

/-- The strokes of some of the windows of a desktop, the lowest of them first. -/
def windows (t : Theme) (d : Desktop) (ws : List Window) : List Stroke :=
  (ws.filter fun w => !w.mode.isHidden).flatMap fun w => window t d.settings.metrics (d.stack.getLast? = some w.id) w

variable {t : Theme} {d : Desktop} {p : Point} {w : Window} {below above : List Window}

theorem windows_append (ws ws' : List Window) : windows t d (ws ++ ws') = windows t d ws ++ windows t d ws' := by
  rw [windows, List.filter_append, List.flatMap_append]
  rfl

theorem windows_cons (hw : w.mode.isHidden = false) (ws : List Window) :
    windows t d (w :: ws) = window t d.settings.metrics (d.stack.getLast? = some w.id) w ++ windows t d ws := by
  rw [windows, List.filter_cons_of_pos (by rw [hw]; rfl), List.flatMap_cons]
  rfl

theorem desktop_of_top (hs : d.stacked = below ++ w :: above) (hw : w.mode.isHidden = false) :
    desktop t d = windows t d below ++ window t d.settings.metrics (d.stack.getLast? = some w.id) w ++
      windows t d above := by
  rw [List.append_assoc, ← windows_cons hw, ← windows_append, ← hs]
  rfl

/-- Windows that are not painted at a point leave it alone. -/
theorem covers_windows (hcells : d.settings.metrics = .cells) (hroom : d.Roomy) {ws : List Window}
    (hlive : ∀ w ∈ ws, w ∈ d.windows) (hws : ∀ w ∈ ws, w.shownAt p = false) :
    ∀ s ∈ windows t d ws, s.covers p = false := by
  intro s hs
  obtain ⟨w, hw, hs⟩ := List.mem_flatMap.1 hs
  obtain ⟨hw, hshown⟩ := List.mem_filter.1 hw
  have hout := hws w hw
  rw [Window.shownAt, hshown, Bool.true_and] at hout
  rw [Bool.not_eq_true'] at hshown
  obtain ⟨hwidth, hheight⟩ := hroom w (hlive w hw) hshown
  rw [hcells] at hs
  exact (inside_window t _ (Layout.confined_cells hwidth hheight w.frame.controls)).covers_eq_false hout s hs

theorem ground_mem_window (t : Theme) (m : Metrics) (topmost : Bool) (w : Window) :
    .fill w.rect ' ' t.body ∈ window t m topmost w := List.mem_cons_self

/-- The ground of a window gives every cell of it a character. -/
theorem top_symbol_window (t : Theme) (m : Metrics) (topmost : Bool) (hw : w.rect.contains p) :
    (Stroke.top (fun s => some (s.symbol p)) p (window t m topmost w)).isSome :=
  Stroke.top_isSome.2 ⟨.fill w.rect ' ' t.body, ground_mem_window t m topmost w, hw, rfl⟩

end Picture

/-- The character of a cell, if the canvas has the cell. -/
def Canvas.symbol? (c : Canvas) (x y : Nat) : Option Char := (c.cell? x y).map Cell.symbol

/-- What painting a desktop makes of a cell, and where a press on it goes. -/
inductive CellOwnership (c : Canvas) (t : Theme) (d : Desktop) (x y : Nat) : Prop
  /-- The topmost window over the cell gives it the character that painting this window
  alone gives it, and takes the presses on it. -/
  | window (w : Window) (part : Part) (top : d.TopmostAt ⟨x, y⟩ w)
      (symbol : ∀ (c' : Canvas) t' topmost, c'.area.Fits → (c'.cell? x y).isSome →
        (c.paintDesktop t d).symbol? x y = (c'.paint (Picture.window t' d.settings.metrics topmost w)).symbol? x y)
      (hit : d.hitTest ⟨x, y⟩ = some (w.id, part))
  /-- A cell that no window covers stays as it was, and no window takes the presses on it. -/
  | bare (none : ∀ w ∈ d.windows, w.shownAt ⟨x, y⟩ = false)
      (same : (c.paintDesktop t d).cell? x y = c.cell? x y) (hit : d.hitTest ⟨x, y⟩ = Option.none)

theorem Canvas.symbol?_paint {c : Canvas} (hc : c.area.Fits) {x y : Nat} (hcell : (c.cell? x y).isSome)
    {ss : List Stroke} {symbol : Char} (htop : Stroke.top (fun s => some (s.symbol ⟨x, y⟩)) ⟨x, y⟩ ss = some symbol) :
    (c.paint ss).symbol? x y = some symbol := by
  obtain ⟨cell, hcell⟩ := Option.isSome_iff_exists.1 hcell
  rw [symbol?, cell?_paint hc, hcell, Option.map_some, Option.map_some, Cell.symbol_paint, htop]
  rfl

variable {d₀ : Desktop} {m : Machine} {ms : List Machine}

/-- A desktop of cells that knows one kind of panel, which has nothing in it. -/
def Desktop.cells : Desktop :=
  { plain with page := .ofViewport ⟨80, 24⟩, settings := { least := ⟨12, 4⟩, metrics := .cells } }

theorem Desktop.isNew_cells : cells.IsNew := isNew (Page.isVacant_ofViewport _) _ _ _

/-- A host that moves the lower of two windows half out from under the other. -/
def overlap (rest : Program) : Program :=
  .create [.passive { kind := "note" }, .passive { kind := "note" }] fun _ =>
    .then_ (.setAnchor "corner" ⟨6, 0, 0, 2⟩) (.then_ (.placeUnder ⟨1⟩ "corner") rest)

/-- The desktop that it leaves. -/
def overlapped (rest : Program) : Desktop := (Machine.step^[14] (.start { desktop := .cells } (overlap rest))).desktop

end FloatingPanels

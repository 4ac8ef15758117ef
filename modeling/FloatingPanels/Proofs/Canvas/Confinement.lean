import FloatingPanels.Proofs.Canvas.Ownership
/-!
# What a window paints outside of itself

The ground, the border, the header and the lines of the content end where the window ends,
however small it is. The title, the buttons and the error take one row each and do not ask
whether the layout has a row for them. `Window.Strays` says of every window whether one of
these texts lies outside of it; `paint_confined` says that nothing else does, and that a
window without such a text changes no other cell of any canvas.
-/

namespace FloatingPanels

/-! ## Clipping on canvases that reach past the limit -/

/-- The lengths of the area are words, wherever it lies. -/
def CellArea.Measured (a : CellArea) : Prop := a.width ≤ limit ∧ a.height ≤ limit

/-- Along one axis a start that is too large for a word starts over before the canvas. -/
theorem CellArea.of_clip_axis {lo hi : Int} {start length n : Nat} (hlength : length ≤ limit) (hn : start ≤ n)
    (h : max lo (start : Int) < min hi ((start + length : Nat) : Int)) (hleft : word (max lo start) ≤ n)
    (hright : n < word (max lo start) +
      min (word (min hi ((start + length : Nat) : Int) - max lo start)) (limit - word (max lo start))) :
    lo ≤ n ∧ (n : Int) < hi := by
  simp only [word, limit] at *
  omega

/-- Clipping never adds a cell of the canvas. -/
theorem Rect.contains_of_clip {r : Rect} {a : CellArea} (ha : a.Measured) {x y : Nat} (h : a.contains x y)
    (hclip : (r.clip a).any (·.contains x y)) : r.contains ⟨x, y⟩ := by
  obtain ⟨hx, -, hy, -⟩ := CellArea.contains_iff.1 h
  rw [clip] at hclip
  split at hclip
  · cases hclip
  · rename_i hsome
    simp only [Bool.or_eq_true, decide_eq_true_eq, not_or, Int.not_le] at hsome
    rw [Option.any_some, CellArea.contains_iff] at hclip
    obtain ⟨hleft, hright, htop, hbottom⟩ := hclip
    have hcols := CellArea.of_clip_axis ha.1 hx hsome.1 hleft hright
    have hrows := CellArea.of_clip_axis ha.2 hy hsome.2 htop hbottom
    exact contains_iff.2 ⟨hcols.1, hcols.2, hrows⟩

namespace Canvas

variable {c : Canvas} {x y : Nat}

theorem cell?_stroke_of_uncovered (hc : c.area.Measured) {s : Stroke} (hs : s.covers ⟨x, y⟩ = false) :
    (c.stroke s).cell? x y = c.cell? x y := by
  cases hclip : s.area.clip c.area with
  | none => rw [stroke, hclip]
  | some area =>
    rw [stroke, hclip]
    dsimp only
    rw [cell?_mapCells]
    cases hcell : c.cell? x y with
    | none => rfl
    | some cell =>
      have hout : ¬ area.contains x y := by
        intro hin
        have := Rect.contains_of_clip hc (contains_of_cell? hcell) (r := s.area) (by rwa [hclip, Option.any_some])
        rw [← Stroke.covers, hs] at this
        cases this
      rw [Option.map_some, if_neg hout]

theorem area_paint (c : Canvas) (ss : List Stroke) : (c.paint ss).area = c.area := by
  induction ss generalizing c with
  | nil => rfl
  | cons s ss ih => exact (ih (c.stroke s)).trans (area_stroke c s)

theorem paint_append (c : Canvas) (ss ss' : List Stroke) : c.paint (ss ++ ss') = (c.paint ss).paint ss' := List.foldl_append

theorem cell?_paint_of_uncovered (hc : c.area.Measured) {ss : List Stroke} (hss : ∀ s ∈ ss, s.covers ⟨x, y⟩ = false) :
    (c.paint ss).cell? x y = c.cell? x y := by
  induction ss generalizing c with
  | nil => rfl
  | cons s ss ih =>
    obtain ⟨hs, hss⟩ := List.forall_mem_cons.1 hss
    have hc' : (c.stroke s).area.Measured := by rwa [area_stroke]
    exact (ih hc' hss).trans (cell?_stroke_of_uncovered hc hs)

end Canvas

/-! ## The rows of the texts -/

namespace Stroke

variable {x y width : Int} {s : String} {style : Style}

theorem covers_text {p : Point} :
    (text x y width s style).covers p ↔ x ≤ p.x ∧ p.x < x + width ∧ p.x < x + s.length ∧ p.y = y := by
  simp only [covers, text, Rect.contains_iff, Rect.right, Rect.bottom]
  omega

/-- A text that is not empty is painted where it begins, if it has any width. -/
theorem covers_text_start (style : Style) (hw : 0 < width) (hs : s ≠ "") : (text x y width s style).covers ⟨x, y⟩ := by
  have hlength : s.length ≠ 0 := mt String.length_eq_zero_iff.1 hs
  rw [covers_text]
  dsimp only
  omega

end Stroke

/-- What margin and border take of each side of a window. -/
def Metrics.inset (m : Metrics) : Int := m.margin + m.border

namespace Window

variable (m : Metrics) (w : Window)

/-- The row of the header lies below the window. -/
def LacksHeaderRow : Prop := w.rect.height ≤ m.inset

/-- The row of the footer lies below the window. Without margin and border, it does so if
the footer has no height or the header takes it all. -/
def LacksFooterRow : Prop :=
  w.rect.height ≤ m.inset ∨ m.inset = 0 ∧ (m.footerHeight = 0 ∨ w.rect.height ≤ m.headerHeight)

/-- There is a text for the row of the header. -/
def HasHeaderText : Prop := Picture.shownTitle w ≠ "" ∨ w.frame.controls ≠ [] ∧ 0 < m.buttonWidth

/-- Some text of the window lies outside of it. -/
def Strays : Prop :=
  2 * m.inset < w.rect.width ∧
    (w.LacksHeaderRow m ∧ w.HasHeaderText m ∨ w.LacksFooterRow m ∧ w.frame.error.isSome)

instance : Decidable (w.LacksHeaderRow m) := inferInstanceAs (Decidable (_ ≤ _))

instance : Decidable (w.LacksFooterRow m) := inferInstanceAs (Decidable (_ ∨ _))

instance : Decidable (w.HasHeaderText m) := inferInstanceAs (Decidable (_ ∨ _))

instance : Decidable (w.Strays m) := inferInstanceAs (Decidable (_ ∧ _))

end Window

namespace Layout

variable {m : Metrics} {header : Rect} {width right : Int}

theorem placeControls_le_width (cs : List Control) :
    ∀ b ∈ (placeControls header width right cs).1, b.2.width ≤ width := by
  induction cs generalizing right with
  | nil =>
    intro b hb
    cases hb
  | cons c cs ih =>
    rw [placeControls]
    refine List.forall_mem_cons.2 ⟨?_, ih⟩
    dsimp only
    omega

theorem header_left_le_right (outer : Rect) (m : Metrics) (cs : List Control) :
    (ofControls outer m cs).header.left ≤ (ofControls outer m cs).header.right := by
  simp only [ofControls, Rect.right]
  omega

/-- Without buttons, or with buttons that have no width, the title has all of the header. -/
theorem placeControls_snd (hr : header.left ≤ right) {cs : List Control} (h : cs = [] ∨ width = 0) :
    (placeControls header width right cs).2 = right := by
  induction cs with
  | nil => rfl
  | cons c cs ih =>
    obtain rfl := h.resolve_left (List.cons_ne_nil c cs)
    have hsame : max header.left (right - 0) = right := by omega
    rw [placeControls, hsame]
    exact ih (.inr rfl)

end Layout

namespace Window

variable {m : Metrics} (w : Window) {p : Point}

/-- Points of the row where the texts of the header are. -/
def InHeaderRow (m : Metrics) (w : Window) (p : Point) : Prop :=
  (w.layout m).header.left ≤ p.x ∧ p.x < (w.layout m).header.right ∧ p.y = (w.layout m).header.top

/-- Points of the row where the error is. -/
def InFooterRow (m : Metrics) (w : Window) (p : Point) : Prop :=
  (w.layout m).footer.left ≤ p.x ∧ p.x < (w.layout m).footer.right ∧ p.y = (w.layout m).footer.top

theorem contains_of_inHeaderRow (hm : m.Nonneg) (hp : w.InHeaderRow m p) :
    2 * m.inset < w.rect.width ∧ (w.rect.contains p ↔ ¬ w.LacksHeaderRow m) := by
  obtain ⟨-, -, hborder, -, hmargin, -⟩ := hm
  simp only [InHeaderRow, layout, Layout.compute, Layout.ofControls, Rect.contains_iff, Rect.right, Rect.bottom,
    LacksHeaderRow, Metrics.inset] at *
  omega

theorem contains_of_inFooterRow (hm : m.Nonneg) (hp : w.InFooterRow m p) :
    2 * m.inset < w.rect.width ∧ (w.rect.contains p ↔ ¬ w.LacksFooterRow m) := by
  obtain ⟨hheader, hfooter, hborder, -, hmargin, -⟩ := hm
  simp only [InFooterRow, layout, Layout.compute, Layout.ofControls, Rect.contains_iff, Rect.right, Rect.bottom,
    LacksFooterRow, Metrics.inset] at *
  omega

theorem exists_button (hwide : 2 * m.inset < w.rect.width) (hc : w.frame.controls ≠ []) (hb : 0 < m.buttonWidth) :
    ∃ b ∈ (w.layout m).controls, 0 < b.2.width := by
  obtain ⟨c, cs, hc⟩ := List.exists_cons_of_ne_nil hc
  rw [layout, Layout.compute, hc]
  refine ⟨_, List.mem_cons_self, ?_⟩
  simp only [Rect.right, Metrics.inset] at *
  omega

theorem width_title (hwide : 2 * m.inset < w.rect.width) (h : w.frame.controls = [] ∨ m.buttonWidth = 0) :
    0 < (w.layout m).title.width := by
  have hheader := Layout.header_left_le_right w.rect m w.frame.controls
  have hall := Layout.placeControls_snd hheader h
  simp only [layout, Layout.compute, Layout.ofControls, Rect.right, Metrics.inset] at *
  omega

theorem inHeaderRow_of_title (hm : m.Nonneg) (hleft : (w.layout m).title.left ≤ p.x)
    (hright : p.x < (w.layout m).title.right) (htop : p.y = (w.layout m).title.top) : w.InHeaderRow m p := by
  have hheader := Layout.header_left_le_right w.rect m w.frame.controls
  have hbetween := (Layout.placeControls_between hm.buttonWidth hheader w.frame.controls).1.2
  refine ⟨hleft, ?_, htop⟩
  simp only [layout, Layout.compute, Layout.ofControls, Rect.right] at *
  omega

theorem inHeaderRow_of_control (hm : m.Nonneg) {b : Control × Rect} (hb : b ∈ (w.layout m).controls)
    (hleft : b.2.left ≤ p.x) (hright : p.x < b.2.right) (htop : p.y = b.2.top) :
    w.InHeaderRow m p ∧ w.frame.controls ≠ [] ∧ 0 < m.buttonWidth := by
  have hheader := Layout.header_left_le_right w.rect m w.frame.controls
  obtain ⟨hstart, hstop, hrow, -⟩ := (Layout.placeControls_between hm.buttonWidth hheader w.frame.controls).2 b hb
  have hwidth := Layout.placeControls_le_width w.frame.controls b hb
  refine ⟨⟨?_, ?_, htop.trans hrow⟩, ?_, ?_⟩
  · exact Int.le_trans hstart hleft
  · exact Int.lt_of_lt_of_le hright hstop
  · intro hnone
    have hmem := List.mem_map_of_mem (f := Prod.fst) hb
    rw [layout, Layout.compute, hnone] at hmem
    cases hmem
  · rw [Rect.right] at hright
    omega

end Window

namespace Picture

variable (t : Theme) {m : Metrics} (topmost : Bool) {w : Window} {p : Point}

/-- What is painted outside of a window is one of its texts. -/
theorem strays_of_covers (hm : m.Nonneg) {s : Stroke} (hs : s ∈ window t m topmost w) (hp : s.covers p)
    (hout : ¬ w.rect.contains p) : w.Strays m := by
  have hparts := Layout.parts_inside hm w.rect w.frame.controls
  simp only [window, List.mem_append, List.mem_cons, List.not_mem_nil, or_false, List.mem_map] at hs
  rcases hs with ((((rfl | hs) | rfl | rfl) | ⟨b, hb, rfl⟩) | hs) | hs
  · exact absurd hp hout
  · exact absurd (Stroke.inside_border _ _ s hs p hp) hout
  · exact absurd (hparts _ List.mem_cons_self p hp) hout
  · obtain ⟨hleft, hright, hlength, htop⟩ := Stroke.covers_text.1 hp
    have htitle : shownTitle w ≠ "" := by
      intro hnone
      rw [hnone, String.length_empty] at hlength
      omega
    obtain ⟨hwide, hin⟩ := w.contains_of_inHeaderRow hm (w.inHeaderRow_of_title hm hleft hright htop)
    exact ⟨hwide, .inl ⟨not_not.1 (mt hin.2 hout), .inl htitle⟩⟩
  · obtain ⟨hleft, hright, -, htop⟩ := Stroke.covers_text.1 hp
    obtain ⟨hrow, hbuttons⟩ := w.inHeaderRow_of_control hm hb hleft hright htop
    obtain ⟨hwide, hin⟩ := w.contains_of_inHeaderRow hm hrow
    exact ⟨hwide, .inl ⟨not_not.1 (mt hin.2 hout), .inr hbuttons⟩⟩
  · have hcontent := Stroke.inside_lines _ _ _ s hs p hp
    exact absurd (hparts _ (List.mem_cons_of_mem _ List.mem_cons_self) p hcontent) hout
  · split at hs
    · rename_i message herror
      obtain rfl := List.mem_singleton.1 hs
      obtain ⟨hleft, hright, -, htop⟩ := Stroke.covers_text.1 hp
      obtain ⟨hwide, hin⟩ := w.contains_of_inFooterRow hm ⟨hleft, hright, htop⟩
      exact ⟨hwide, .inr ⟨not_not.1 (mt hin.2 hout), by rw [herror]; rfl⟩⟩
    · cases hs

theorem glyph_ne_empty (mode : Mode) (c : Control) : glyph mode c ≠ "" := by
  cases c with
  | close => simp [glyph]
  | maximize => cases h : mode.isMaximized <;> simp [glyph, h]
  | hide => simp [glyph]
  | stick => cases h : mode.isStuck <;> simp [glyph, h]

theorem exists_text_in_header (hm : m.Nonneg) (hwide : 2 * m.inset < w.rect.width) (h : w.HasHeaderText m) :
    ∃ p, w.InHeaderRow m p ∧ ∃ s ∈ window t m topmost w, s.covers p := by
  let style := if topmost then t.headerTop else t.header
  by_cases hbuttons : w.frame.controls ≠ [] ∧ 0 < m.buttonWidth
  · obtain ⟨b, hb, hwidth⟩ := w.exists_button hwide hbuttons.1 hbuttons.2
    have hin := w.inHeaderRow_of_control hm hb (p := b.2.origin) (Int.le_refl _) (Int.lt_add_of_pos_right _ hwidth) rfl
    refine ⟨b.2.origin, hin.1, _, ?_, Stroke.covers_text_start style hwidth (glyph_ne_empty w.mode b.1)⟩
    simp only [window, List.mem_append, List.mem_map]
    exact .inl (.inl (.inr ⟨b, hb, rfl⟩))
  · have hnone : w.frame.controls = [] ∨ m.buttonWidth = 0 := by
      refine or_iff_not_imp_left.2 fun hc => ?_
      have hpos : ¬ 0 < m.buttonWidth := fun hpos => hbuttons ⟨hc, hpos⟩
      exact Int.le_antisymm (Int.not_lt.1 hpos) hm.buttonWidth
    have hwidth := w.width_title hwide hnone
    refine ⟨(w.layout m).title.origin, ?_, _, ?_, Stroke.covers_text_start style hwidth (h.resolve_right hbuttons)⟩
    · exact w.inHeaderRow_of_title hm (Int.le_refl _) (Int.lt_add_of_pos_right _ hwidth) rfl
    · simp only [window, List.mem_append, List.mem_cons]
      exact .inl (.inl (.inl (.inr (.inr (.inl rfl)))))

theorem exists_text_in_footer (hwide : 2 * m.inset < w.rect.width) (h : w.frame.error.isSome) :
    ∃ p, w.InFooterRow m p ∧ ∃ s ∈ window t m topmost w, s.covers p := by
  obtain ⟨message, hmessage⟩ := Option.isSome_iff_exists.1 h
  have hne : message ≠ "" := of_decide_eq_true (Option.filter_eq_some_iff.1 hmessage).2
  have hwidth : 0 < (w.layout m).footer.width := by
    simp only [Window.layout, Layout.compute, Layout.ofControls, Metrics.inset] at *
    omega
  refine ⟨(w.layout m).footer.origin, ⟨Int.le_refl _, Int.lt_add_of_pos_right _ hwidth, rfl⟩, _, ?_,
    Stroke.covers_text_start t.error hwidth hne⟩
  rw [window, hmessage]
  exact List.mem_append_right _ List.mem_cons_self

/-- A text that has no row in the window begins outside of it. -/
theorem covers_of_strays (hm : m.Nonneg) (h : w.Strays m) :
    ∃ p, ¬ w.rect.contains p ∧ ∃ s ∈ window t m topmost w, s.covers p := by
  obtain ⟨hwide, ⟨hrow, htext⟩ | ⟨hrow, herror⟩⟩ := h
  · obtain ⟨p, hp, hcovers⟩ := exists_text_in_header t topmost hm hwide htext
    exact ⟨p, fun hin => (w.contains_of_inHeaderRow hm hp).2.1 hin hrow, hcovers⟩
  · obtain ⟨p, hp, hcovers⟩ := exists_text_in_footer t topmost hwide herror
    exact ⟨p, fun hin => (w.contains_of_inFooterRow hm hp).2.1 hin hrow, hcovers⟩

end Picture

/-! ## Painting -/

/-- What painting a desktop does outside of one of its windows, between those below it and
those above. -/
structure Desktop.Confined (d : Desktop) (t : Theme) (below : List Window) (w : Window) (above : List Window) :
    Prop where
  /-- It is painted once all below it are. -/
  turn : ∀ c : Canvas, c.paintDesktop t d =
    (c.paint (Picture.windows t d (below ++ [w]))).paint (Picture.windows t d above)
  /-- Some cell outside of the window would be changed just if a text of it strays. -/
  strays : w.mode.isHidden = false →
    ((∃ p, ¬ w.rect.contains p ∧ ∃ cell, Cell.paint p cell (Picture.windows t d [w]) ≠ cell) ↔
      w.Strays d.settings.metrics)
  /-- Without such a text, all cells outside of it stay as the windows below left them. -/
  kept : w.mode.isHidden ∨ ¬ w.Strays d.settings.metrics → ∀ c : Canvas, c.area.Measured → ∀ x y : Nat,
    ¬ w.rect.contains ⟨x, y⟩ →
      (c.paint (Picture.windows t d (below ++ [w]))).cell? x y = (c.paint (Picture.windows t d below)).cell? x y

namespace Picture

variable {t : Theme} {d : Desktop} {w : Window}

theorem windows_singleton (hw : w.mode.isHidden = false) :
    windows t d [w] = window t d.settings.metrics (d.stack.getLast? = some w.id) w :=
  (windows_cons hw []).trans (List.append_nil _)

theorem windows_singleton_hidden (hw : w.mode.isHidden = true) : windows t d [w] = [] := by
  rw [windows, List.filter_singleton, hw]
  rfl

end Picture

variable {d : Desktop} {below above : List Window} {w : Window}

theorem paint_confined (hm : d.settings.metrics.Nonneg) (hs : d.stacked = below ++ w :: above) (t : Theme) :
    d.Confined t below w above where
  turn c := by
    have hall : Picture.desktop t d = Picture.windows t d (below ++ [w]) ++ Picture.windows t d above := by
      rw [← Picture.windows_append, List.append_assoc, List.singleton_append, ← hs]
      rfl
    rw [Canvas.paintDesktop, hall, Canvas.paint_append]
  strays hw := by
    rw [Picture.windows_singleton hw]
    constructor
    · rintro ⟨p, hout, cell, hcell⟩
      by_contra hstrays
      refine hcell (Cell.paint_eq_self fun s hs => ?_)
      rw [Bool.eq_false_iff]
      exact fun hp => hstrays (Picture.strays_of_covers t _ hm hs hp hout)
    · intro hstrays
      obtain ⟨p, hout, hcovers⟩ := Picture.covers_of_strays t (d.stack.getLast? = some w.id) hm hstrays
      refine ⟨p, hout, ?_⟩
      by_contra hsame
      -- The text gives the same character to two cells that differ.
      have hsymbol := Cell.symbol_paint_eq { symbol := ' ' } { symbol := 'x' } hcovers
      rw [not_not.1 (not_exists.1 hsame _), not_not.1 (not_exists.1 hsame _)] at hsymbol
      cases hsymbol
  kept hw c hc x y hout := by
    have harea : (c.paint (Picture.windows t d below)).area.Measured := by rwa [Canvas.area_paint]
    rw [Picture.windows_append, Canvas.paint_append]
    refine Canvas.cell?_paint_of_uncovered harea fun s hs => ?_
    cases hhidden : w.mode.isHidden with
    | true =>
      rw [Picture.windows_singleton_hidden hhidden] at hs
      cases hs
    | false =>
      rw [Picture.windows_singleton hhidden] at hs
      rw [Bool.eq_false_iff]
      rw [hhidden] at hw
      exact fun hp => hw.resolve_left Bool.false_ne_true (Picture.strays_of_covers t _ hm hs hp hout)

/-- A host that gives an error to its one window. -/
def failing : Program :=
  .create [.passive { kind := "note" }] fun _ => .then_ (.setError ⟨1⟩ (some "failed")) .accept

/-- Metrics that leave a window nothing but its header. -/
def Metrics.headerOnly : Metrics :=
  { headerHeight := 1, footerHeight := 0, border := 0, padding := 0, margin := 0, handle := 1, buttonWidth := 3 }

theorem Metrics.nonneg_headerOnly : headerOnly.Nonneg := by
  constructor <;> decide

/-- A desktop of windows without footers. -/
def Desktop.footerless : Desktop := { cells with settings := { least := ⟨12, 2⟩, metrics := .headerOnly } }

theorem Desktop.isNew_footerless : footerless.IsNew := isNew (Page.isVacant_ofViewport _) _ _ _

/-- With a footer an error stays inside. -/
theorem paint_confined_failing :
    let d := (Machine.step^[8] (.start { desktop := .cells } failing)).desktop
    d.settings.metrics.Nonneg ∧ ∃ w, d.stacked = [w] ∧ d.Confined {} [] w [] ∧
      w.frame.error = some "failed" ∧ ¬ w.Strays d.settings.metrics := by
  intro d
  have hfacts : d.settings.metrics = .cells ∧ d.windows.length = 1 ∧
      ∀ w ∈ d.windows, w.frame.error = some "failed" ∧ ¬ w.Strays d.settings.metrics := by decide +kernel
  obtain ⟨hcells, hone, hall⟩ := hfacts
  have hm : d.settings.metrics.Nonneg := hcells ▸ Metrics.nonneg_cells
  obtain ⟨w, hw⟩ := List.length_eq_one_iff.1 hone
  have hstacked : d.stacked = [w] := by rw [Desktop.stacked, hw, List.mergeSort_singleton]
  exact ⟨hm, w, hstacked, paint_confined hm hstacked {}, hall w (hw ▸ List.mem_singleton_self w)⟩

/-- Without a footer the error of a window is painted in the row below it. -/
theorem paint_confined_fails_footerless :
    let d := (Machine.step^[8] (.start { desktop := .footerless } failing)).desktop
    Desktop.footerless.IsNew ∧ d.settings.metrics.Nonneg ∧ d.windows.map Window.rect = [⟨0, 0, 12, 2⟩] ∧
      (Canvas.blank ⟨0, 0, 12, 4⟩).cell? 0 2 = some {} ∧
      ((Canvas.blank ⟨0, 0, 12, 4⟩).paintDesktop {} d).cell? 0 2 = some { symbol := 'f', fg := .red } := by
  intro d
  obtain ⟨hmetrics, hrects, hsorted⟩ : d.settings.metrics = .headerOnly ∧ d.windows.map Window.rect = [⟨0, 0, 12, 2⟩] ∧
      d.windows.Pairwise fun v w => v.notAbove w := by decide +kernel
  refine ⟨Desktop.isNew_footerless, hmetrics ▸ Metrics.nonneg_headerOnly, hrects, by decide, ?_⟩
  simp only [Canvas.paintDesktop, Picture.desktop, Picture.visible, Desktop.stack, Desktop.stacked_of_pairwise hsorted]
  decide +kernel

end FloatingPanels

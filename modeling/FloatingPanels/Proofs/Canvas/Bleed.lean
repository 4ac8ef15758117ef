import FloatingPanels.Proofs.Canvas.Ownership
import Mathlib.Data.List.TakeWhile
/-!
# What shows through a window

The ground of a window names no colours, so that it leaves a cell the colours that lower
windows gave it. Two desktops that agree on a window and on all above it can thus look
different there. They have the same characters, though, and bold type in the same places;
and they have the same colours wherever the window or one above it names them, as it does
in its header.
-/

namespace FloatingPanels

deriving instance DecidableEq for Window

/-- The window without its height. -/
def Window.flat (w : Window) : Window := { w with z := 0 }

namespace Desktop

/-- The windows below one, from bottom to top. -/
def below (d : Desktop) (id : WindowId) : List Window := d.stacked.takeWhile fun v => v.id ≠ id

/-- A window and all above it, from bottom to top. -/
def upFrom (d : Desktop) (id : WindowId) : List Window := d.stacked.dropWhile fun v => v.id ≠ id

/-- The desktops agree on a window and on all above it. Their heights do not count, as
other windows may be below them. -/
structure AgreeFrom (d d' : Desktop) (id : WindowId) : Prop where
  metrics : d.settings.metrics = d'.settings.metrics
  windows : (d.upFrom id).map Window.flat = (d'.upFrom id).map Window.flat

variable {d d' : Desktop} {id : WindowId} {v w : Window}

theorem below_append_upFrom (d : Desktop) (id : WindowId) : d.below id ++ d.upFrom id = d.stacked :=
  List.takeWhile_append_dropWhile

theorem upFrom_of_mem (hn : d.ids.Nodup) (hw : w ∈ d.windows) : ∃ above, d.upFrom w.id = w :: above := by
  have hmem := mem_stacked.2 hw
  rw [← below_append_upFrom d w.id] at hmem
  rcases List.mem_append.1 hmem with hbelow | hup
  · have hne := List.mem_takeWhile_imp (p := fun v : Window => decide (v.id ≠ w.id)) hbelow
    exact absurd rfl (of_decide_eq_true hne)
  · cases hhead : d.upFrom w.id with
    | nil =>
      rw [hhead] at hup
      cases hup
    | cons v above =>
      have hid : v.id = w.id := by
        have := List.head?_dropWhile_not (fun v : Window => decide (v.id ≠ w.id)) d.stacked
        rw [← upFrom, hhead] at this
        simpa using this
      have hv : v ∈ d.windows := by
        rw [← mem_stacked, ← below_append_upFrom d w.id, hhead]
        simp
      rw [List.inj_on_of_nodup_map hn hv hw hid]
      exact ⟨above, rfl⟩

/-- With a window in it, the upper part of the stack has its last window. -/
theorem getLast?_stack (h : d.upFrom id ≠ []) : d.stack.getLast? = ((d.upFrom id).map Window.id).getLast? := by
  rw [stack, ← below_append_upFrom d id, List.map_append, List.getLast?_append_of_ne_nil]
  rwa [ne_eq, List.map_eq_nil_iff]

theorem not_last_of_mem_below (hn : d.ids.Nodup) (h : d.upFrom id ≠ []) (hv : v ∈ d.below id) :
    d.stack.getLast? ≠ some v.id := by
  intro hlast
  rw [getLast?_stack h] at hlast
  have hstack : (d.stacked.map Window.id).Nodup := ((List.mergeSort_perm _ _).map Window.id).nodup_iff.2 hn
  rw [← below_append_upFrom d id, List.map_append] at hstack
  exact (List.nodup_append.1 hstack).2.2 _ (List.mem_map_of_mem hv) _ (List.mem_of_getLast? hlast) rfl

theorem AgreeFrom.ne_nil (hd : d.AgreeFrom d' id) (h : d.upFrom id ≠ []) : d'.upFrom id ≠ [] := by
  intro hnil
  have := hd.windows
  rw [hnil, List.map_nil, List.map_eq_nil_iff] at this
  exact h this

theorem AgreeFrom.getLast?_stack (hd : d.AgreeFrom d' id) (h : d.upFrom id ≠ []) :
    d.stack.getLast? = d'.stack.getLast? := by
  have hids : ∀ ws : List Window, ws.map Window.id = (ws.map Window.flat).map Window.id := by
    intro ws
    rw [List.map_map]
    rfl
  rw [Desktop.getLast?_stack h, Desktop.getLast?_stack (hd.ne_nil h), hids, hd.windows, ← hids]

end Desktop

namespace Picture

variable {d d' : Desktop} {id : WindowId}

/-- Heights are not painted. -/
theorem windows_flat (t : Theme) (d : Desktop) (ws : List Window) : windows t d (ws.map Window.flat) = windows t d ws := by
  rw [windows, List.filter_map, List.flatMap_map]
  rfl

theorem windows_upFrom (t : Theme) (hd : d.AgreeFrom d' id) (h : d.upFrom id ≠ []) :
    windows t d (d.upFrom id) = windows t d' (d'.upFrom id) := by
  rw [← windows_flat t d, ← windows_flat t d', hd.windows, windows, windows, hd.metrics, hd.getLast?_stack h]

/-- The styles that a window is painted with. -/
theorem style_window (t : Theme) (m : Metrics) (topmost : Bool) (w : Window) :
    ∀ s ∈ window t m topmost w, s.style = t.body ∨ s.style = (if w.frame.isLocked then t.borderLocked else t.border) ∨
      s.style = (if topmost then t.headerTop else t.header) ∨ s.style = t.error := by
  have hborder : ∀ (r : Rect) (style : Style), ∀ s ∈ Stroke.border r style, s.style = style := by
    intro r style s hs
    unfold Stroke.border at hs
    split at hs
    · cases hs
    · simp only [List.mem_cons, List.not_mem_nil, or_false] at hs
      rcases hs with rfl | rfl | rfl | rfl | rfl | rfl | rfl | rfl <;> rfl
  intro s hs
  simp only [window, List.mem_append, List.mem_cons, List.not_mem_nil, or_false, List.mem_map] at hs
  rcases hs with ((((rfl | hs) | rfl | rfl) | ⟨b, -, rfl⟩) | hs) | hs
  · exact .inl rfl
  · exact .inr (.inl (hborder _ _ s hs))
  · exact .inr (.inr (.inl rfl))
  · exact .inr (.inr (.inl rfl))
  · exact .inr (.inr (.inl rfl))
  · obtain ⟨i, hi, rfl⟩ := List.mem_mapIdx.1 hs
    exact .inl rfl
  · split at hs
    · rw [List.mem_singleton] at hs
      exact .inr (.inr (.inr (hs ▸ rfl)))
    · cases hs

/-- Only the topmost window has bold type. -/
theorem not_bold_below (hn : d.ids.Nodup) (h : d.upFrom id ≠ []) :
    ∀ s ∈ windows {} d (d.below id), s.style.bold = false := by
  intro s hs
  obtain ⟨v, hv, hs⟩ := List.mem_flatMap.1 hs
  have hlast := Desktop.not_last_of_mem_below hn h (List.mem_filter.1 hv).1
  have hstyle := style_window {} _ _ v s hs
  rw [decide_eq_false hlast] at hstyle
  rcases hstyle with hstyle | hstyle | hstyle | hstyle
  · rw [hstyle]
  · rw [hstyle]
    split <;> rfl
  · rw [hstyle]
    rfl
  · rw [hstyle]

theorem desktop_eq (t : Theme) (d : Desktop) (id : WindowId) :
    desktop t d = windows t d (d.below id) ++ windows t d (d.upFrom id) := by
  rw [← windows_append, Desktop.below_append_upFrom]
  rfl

theorem header_window (m : Metrics) (topmost : Bool) {w : Window} {p : Point} (h : (w.layout m).header.contains p) :
    ∃ s ∈ window {} m topmost w, s.covers p ∧ s.style.fg.isSome ∧ s.style.bg.isSome := by
  refine ⟨.fill (w.layout m).header ' ' (if topmost then ({} : Theme).headerTop else ({} : Theme).header), ?_, h, ?_⟩
  · simp [window]
  · cases topmost <;> exact ⟨rfl, rfl⟩

end Picture

/-! ## Two desktops -/

namespace Desktop

/-- What the windows below one leave of a blank cell, in the usual theme. -/
def underlay (d : Desktop) (id : WindowId) (p : Point) : Cell := Cell.paint p {} (Picture.windows {} d (d.below id))

/-- The strokes of a window and all above it, in the usual theme. -/
def overlay (d : Desktop) (id : WindowId) : List Stroke := Picture.windows {} d (d.upFrom id)

end Desktop

/-- What two desktops that agree on a window and on all above it show at a cell of it. -/
structure SeenAlike (d d' : Desktop) (w : Window) (p : Point) (a b : Cell) : Prop where
  symbol : a.symbol = b.symbol
  bold : a.bold = b.bold
  /-- A colour is the same if the window or one above it names it, and else only if
  the windows below leave the same. -/
  fg : a.fg = b.fg ↔
    (∃ s ∈ d.overlay w.id, s.covers p ∧ s.style.fg.isSome) ∨ (d.underlay w.id p).fg = (d'.underlay w.id p).fg
  bg : a.bg = b.bg ↔
    (∃ s ∈ d.overlay w.id, s.covers p ∧ s.style.bg.isSome) ∨ (d.underlay w.id p).bg = (d'.underlay w.id p).bg
  /-- The header names both colours. -/
  header : (w.layout d.settings.metrics).header.contains p → a = b

namespace Desktop

variable {d d' : Desktop} {id : WindowId} {w : Window}

/-- On a blank canvas, a window and all above it are painted over what is below. -/
theorem cell?_paintDesktop (d : Desktop) (id : WindowId) {area : CellArea} {x y : Nat} (hin : area.bounded.contains x y) :
    ((Canvas.blank area).paintDesktop {} d).cell? x y = some ((d.underlay id ⟨x, y⟩).paint ⟨x, y⟩ (d.overlay id)) := by
  rw [Canvas.paintDesktop, Canvas.cell?_paint (CellArea.fits_bounded hin), Canvas.cell?_blank area hin, Option.map_some,
    Picture.desktop_eq {} d id, Cell.paint_append]
  rfl

theorem not_bold_underlay (hn : d.ids.Nodup) (h : d.upFrom id ≠ []) (p : Point) : (d.underlay id p).bold = false := by
  rw [underlay, Cell.bold_paint, Bool.false_or, List.any_eq_false]
  intro s hs
  rw [Picture.not_bold_below hn h s hs, Bool.and_false]
  exact Bool.false_ne_true

/-- The strokes of a window that is painted are among those from it up. -/
theorem mem_overlay (hn : d.ids.Nodup) (hw : w ∈ d.windows) (hshown : w.mode.isHidden = false) {s : Stroke}
    (hs : s ∈ Picture.window {} d.settings.metrics (d.stack.getLast? = some w.id) w) : s ∈ d.overlay w.id := by
  obtain ⟨above, habove⟩ := upFrom_of_mem hn hw
  rw [overlay, habove, Picture.windows_cons hshown]
  exact List.mem_append_left _ hs

/-- Whatever is below a window, what is to be seen of it is alike but for colours that
neither the window nor any above it names. -/
theorem seenAlike (hd : d.AgreeFrom d' w.id) (hn : d.ids.Nodup) (hn' : d'.ids.Nodup) (hw : w ∈ d.windows)
    {area area' : CellArea} {x y : Nat} (hin : area.bounded.contains x y) (hin' : area'.bounded.contains x y)
    (hp : w.shownAt ⟨x, y⟩) :
    ∃ a b, ((Canvas.blank area).paintDesktop {} d).cell? x y = some a ∧
      ((Canvas.blank area').paintDesktop {} d').cell? x y = some b ∧ SeenAlike d d' w ⟨x, y⟩ a b := by
  obtain ⟨hshown, hcovers⟩ := Window.shownAt_iff.1 hp
  have hne : d.upFrom w.id ≠ [] := by
    obtain ⟨above, habove⟩ := upFrom_of_mem hn hw
    rw [habove]
    exact List.cons_ne_nil _ _
  have hoverlay : d'.overlay w.id = d.overlay w.id := (Picture.windows_upFrom {} hd hne).symm
  have hunder : (d.underlay w.id ⟨x, y⟩).bold = (d'.underlay w.id ⟨x, y⟩).bold := by
    rw [not_bold_underlay hn hne, not_bold_underlay hn' (hd.ne_nil hne)]
  -- The ground names no colours, but it has a character for every cell.
  have hground : ∃ s ∈ d.overlay w.id, s.covers ⟨x, y⟩ :=
    ⟨.fill w.rect ' ' {}, mem_overlay hn hw hshown (Picture.ground_mem_window _ _ _ _), hcovers⟩
  refine ⟨_, _, cell?_paintDesktop d w.id hin, cell?_paintDesktop d' w.id hin', ?_⟩
  rw [hoverlay]
  have hsymbol := Cell.symbol_paint_eq (d.underlay w.id ⟨x, y⟩) (d'.underlay w.id ⟨x, y⟩) hground
  have hbold := Cell.bold_paint_eq ⟨x, y⟩ (d.overlay w.id) hunder
  have hfg := Cell.fg_paint_eq_iff ⟨x, y⟩ (d.underlay w.id ⟨x, y⟩) (d.overlay w.id) (d'.underlay w.id ⟨x, y⟩)
  have hbg := Cell.bg_paint_eq_iff ⟨x, y⟩ (d.underlay w.id ⟨x, y⟩) (d.overlay w.id) (d'.underlay w.id ⟨x, y⟩)
  refine ⟨hsymbol, hbold, hfg, hbg, fun hheader => ?_⟩
  obtain ⟨s, hs, hp, hsfg, hsbg⟩ := Picture.header_window d.settings.metrics (d.stack.getLast? = some w.id) hheader
  have hs := mem_overlay hn hw hshown hs
  exact Cell.ext hsymbol (hfg.2 (.inl ⟨s, hs, hp, hsfg⟩)) (hbg.2 (.inl ⟨s, hs, hp, hsbg⟩)) hbold

/-- The desktop `overlapped .accept`, but for its lower window. -/
def uncrowded : Desktop := overlapped (.then_ (.hide ⟨1⟩) .accept)

/-- In both desktops the windows stand in the order of their heights, and only the lower window differs. -/
theorem overlapped_facts :
    ((overlapped .accept).windows.Pairwise fun v w => v.notAbove w) ∧
      (uncrowded.windows.Pairwise fun v w => v.notAbove w) ∧
      (overlapped .accept).settings.metrics = uncrowded.settings.metrics ∧
      ((overlapped .accept).windows.dropWhile fun v => v.id ≠ ⟨2⟩).map Window.flat =
        (uncrowded.windows.dropWhile fun v => v.id ≠ ⟨2⟩).map Window.flat ∧
      ((overlapped .accept).ids.Nodup ∧ uncrowded.ids.Nodup) ∧
      ∃ w ∈ (overlapped .accept).windows, w.id = ⟨2⟩ ∧ w.shownAt ⟨8, 2⟩ ∧
        ∀ v ∈ (overlapped .accept).windows, v.shownAt ⟨8, 2⟩ → v = w ∨ v.z < w.z := by
  decide +kernel

theorem stacked_overlapped :
    (overlapped .accept).stacked = (overlapped .accept).windows ∧ uncrowded.stacked = uncrowded.windows :=
  ⟨stacked_of_pairwise overlapped_facts.1, stacked_of_pairwise overlapped_facts.2.1⟩

theorem agreeFrom_overlapped : (overlapped .accept).AgreeFrom uncrowded ⟨2⟩ := by
  obtain ⟨-, -, hmetrics, hwindows, -⟩ := overlapped_facts
  refine ⟨hmetrics, ?_⟩
  rwa [upFrom, upFrom, stacked_overlapped.1, stacked_overlapped.2]

theorem seenAlike_overlapped :
    (overlapped .accept).AgreeFrom uncrowded ⟨2⟩ ∧
      ∃ w ∈ (overlapped .accept).windows, w.id = ⟨2⟩ ∧ w.shownAt ⟨8, 2⟩ ∧
        ∃ a b, ((Canvas.blank ⟨0, 0, 12, 4⟩).paintDesktop {} (overlapped .accept)).cell? 8 2 = some a ∧
          ((Canvas.blank ⟨0, 0, 12, 4⟩).paintDesktop {} uncrowded).cell? 8 2 = some b ∧
          SeenAlike (overlapped .accept) uncrowded w ⟨8, 2⟩ a b := by
  refine ⟨agreeFrom_overlapped, ?_⟩
  obtain ⟨-, -, -, -, hnodup, w, hw, hid, hp, -⟩ := overlapped_facts
  exact ⟨w, hw, hid, hp, seenAlike (hid ▸ agreeFrom_overlapped) hnodup.1 hnodup.2 hw (by decide) (by decide) hp⟩

/-- Where the topmost window is empty, the border of the window below shows its colour. -/
theorem seenAlike_fails_overlapped :
    (overlapped .accept).AgreeFrom uncrowded ⟨2⟩ ∧
      (∃ w, w.id = ⟨2⟩ ∧ (overlapped .accept).TopmostAt ⟨8, 2⟩ w) ∧
      (((Canvas.blank ⟨0, 0, 12, 4⟩).paintDesktop {} (overlapped .accept)).cell? 8 2).map Cell.fg = some .darkGray ∧
      (((Canvas.blank ⟨0, 0, 12, 4⟩).paintDesktop {} uncrowded).cell? 8 2).map Cell.fg = some .reset := by
  refine ⟨agreeFrom_overlapped, ?_, ?_⟩
  · obtain ⟨-, -, -, -, -, w, hw, hid, hp, htop⟩ := overlapped_facts
    exact ⟨w, hid, hw, hp, htop⟩
  · simp only [Canvas.paintDesktop, Picture.desktop, Picture.visible, stack, stacked_overlapped.1, stacked_overlapped.2]
    decide +kernel

end Desktop

end FloatingPanels

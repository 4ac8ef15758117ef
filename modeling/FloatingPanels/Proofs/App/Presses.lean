import FloatingPanels.Proofs.App.History
import FloatingPanels.Proofs.Canvas.Ownership
import FloatingPanels.Proofs.Touch
/-!
# Presses of the mouse

The launcher is painted below the windows, but it takes every press in its rectangle as
long as no gesture is going on. All other presses go to the topmost window that is painted
where they are. `mouse_routed` tells the two apart at every moment of the application.
-/

namespace FloatingPanels

namespace App

variable {a : App} {w : Window} {p : Point}

/-- A left press at a point of a terminal. -/
def leftPress (column row : Nat) : MouseEvent := ⟨.down .left, column, row⟩

/-! ## What the launcher leaves -/

theorem launcherTakes_iff :
    a.launcherTakes p ↔ (launcherRect a.desktop.page.viewport).contains p ∧ a.desktop.gesture = none := by
  rw [launcherTakes, Bool.and_eq_true, Option.isNone_iff_eq_none]

/-- An action on the window under the pointer instead of a press does the same. -/
theorem perform_eq_of_directed {x y : Action} (h : a.desktop.directed x = some y) : a.perform x = a.perform y := by
  have hd : (a.desktop.perform x).1 = (a.desktop.perform y).1 := by
    rw [Desktop.perform_directed, h]
    rfl
  show { a with session := a.session.withDesktop (a.desktop.perform x).1 } = _
  rw [hd]
  rfl

theorem mouse_of_launcher {e : MouseEvent} (ht : a.launcherTakes e.point) (hd : e.kind = .down .left) (now : Nat) :
    a.mouse now e = a.openRow (e.point.y - 1) := by
  rw [mouse, if_pos ht, if_pos hd]

/-- Where the launcher takes nothing, a press is the first of a double click or the second. -/
theorem mouse_of_router {column row : Nat} (ht : a.launcherTakes ⟨column, row⟩ = false) (now : Nat) :
    a.mouse now (leftPress column row) =
      if a.router.completes ⟨column, row⟩ now
        then { a with router := { a.router with pending := none } }.perform (.doubleClick ⟨column, row⟩)
        else { a with router := { a.router with pending := some (now, ⟨column, row⟩) } }.perform
          (.pointerDown ⟨column, row⟩) := by
  have ht : ¬ a.launcherTakes (leftPress column row).point = true := Bool.eq_false_iff.1 ht
  rw [mouse, if_neg ht]
  by_cases hc : a.router.completes (leftPress column row).point now
  · have hroute : a.router.route (leftPress column row) now =
        ({ a.router with pending := none }, some (.doubleClick ⟨column, row⟩)) := if_pos hc
    rw [hroute]
    exact (if_pos hc).symm
  · have hroute : a.router.route (leftPress column row) now =
        ({ a.router with pending := some (now, ⟨column, row⟩) }, some (.pointerDown ⟨column, row⟩)) := if_neg hc
    rw [hroute]
    exact (if_neg hc).symm

/-- The first press on a part of a window does what the part is there for. -/
theorem mouse_of_hit {column row now : Nat} {part : Part} {id : WindowId}
    (ht : a.launcherTakes ⟨column, row⟩ = false) (hp : a.desktop.hitTest ⟨column, row⟩ = some (id, part))
    (hc : a.router.completes ⟨column, row⟩ now = false) :
    a.mouse now (leftPress column row) =
      { a with router := { a.router with pending := some (now, ⟨column, row⟩) } }.perform
        (Desktop.pressAction id ⟨column, row⟩ part) := by
  rw [mouse_of_router ht, if_neg (Bool.eq_false_iff.1 hc)]
  exact perform_eq_of_directed (congrArg (Option.map _) hp)

/-- The press at a point comes to an action on this window, or to none if it is the second of a double
click. -/
structure GoesTo (a a' : App) (p : Point) (w : Window) : Prop where
  action : ∃ part, a.desktop.hitTest p = some (w.id, part) ∧
    (a'.desktop = (a.desktop.perform (Desktop.pressAction w.id p part)).1 ∨
      a'.desktop = ((Desktop.doubleClickAction w.id part).map fun x => (a.desktop.perform x).1).getD a.desktop)
  /-- No panel is opened, and nothing becomes of the other windows but that they may sink. -/
  spares : a'.desktop.issued = a.desktop.issued ∧ ∀ i, i ≠ w.id → a'.desktop.core? i = a.desktop.core? i

theorem goesTo_of_router {column row : Nat} (hs : a.desktop.Sound) {s : Stack} (hst : a.desktop.StackedAs s)
    (ht : a.launcherTakes ⟨column, row⟩ = false) (hw : a.desktop.TopmostAt ⟨column, row⟩ w) (now : Nat) :
    GoesTo a (a.mouse now (leftPress column row)) ⟨column, row⟩ w := by
  obtain ⟨part, -, hpart⟩ := hst.hitTest_of_topmostAt hw
  -- Neither the first nor the second press adds a window or acts on another one.
  have routed : ∀ {x : Action}, (x = .pointerDown ⟨column, row⟩ ∨ x = .doubleClick ⟨column, row⟩) →
      (a.desktop.perform x).1.issued = a.desktop.issued ∧
        ∀ i, i ≠ w.id → (a.desktop.perform x).1.core? i = a.desktop.core? i := by
    intro x hx
    refine ⟨(Desktop.perform_effect hs x).issued.1, fun i hi => (Desktop.touch_perform a.desktop x).spares i ?_⟩
    rcases hx with rfl | rfl <;> simpa [Desktop.concerns, hpart] using Ne.symm hi
  have hdown : (a.desktop.perform (.pointerDown ⟨column, row⟩)).1 =
      (a.desktop.perform (Desktop.pressAction w.id ⟨column, row⟩ part)).1 := by
    rw [Desktop.perform_directed, Desktop.directed, hpart]
    rfl
  have hdouble : (a.desktop.perform (.doubleClick ⟨column, row⟩)).1 =
      ((Desktop.doubleClickAction w.id part).map fun x => (a.desktop.perform x).1).getD a.desktop := by
    rw [Desktop.perform_directed, Desktop.directed, hpart]
    rfl
  rw [mouse_of_router ht]
  split
  · exact ⟨⟨part, hpart, .inr hdouble⟩, routed (.inr rfl)⟩
  · exact ⟨⟨part, hpart, .inl hdown⟩, routed (.inl rfl)⟩

/-! ## At every moment -/

/-- A left press on a window goes to it, and opens no panel, unless it is in the rectangle of the launcher and no
gesture is going on: then it opens the panel of its row, if there is one. -/
theorem mouse_routed (l : CommandLine) (columns rows : Nat) (events : List (Nat × Event)) (now column row : Nat)
    (hw : ((start l columns rows).after events).desktop.TopmostAt ⟨column, row⟩ w) :
    if (launcherRect ((start l columns rows).after events).desktop.page.viewport).contains ⟨column, row⟩ ∧
        ((start l columns rows).after events).desktop.gesture = none
      then ((start l columns rows).after events).mouse now (leftPress column row) =
        ((start l columns rows).after events).openRow (row - 1)
      else GoesTo ((start l columns rows).after events)
        (((start l columns rows).after events).mouse now (leftPress column row)) ⟨column, row⟩ w := by
  have hr := reached_after l columns rows events
  have hs := hr.sound (isNew_start l columns rows)
  have hst := hr.stackedAs (isNew_start l columns rows)
  generalize (start l columns rows).after events = a at *
  split
  · rename_i ht
    exact mouse_of_launcher (e := leftPress column row) (launcherTakes_iff.2 ht) rfl now
  · rename_i ht
    exact goesTo_of_router hs hst (Bool.eq_false_iff.2 fun h => ht (launcherTakes_iff.1 h)) hw now

/-- The only window is the topmost wherever it is painted. -/
theorem topmostAt_only {d : Desktop} (h : d.windows.length = 1 ∧ ∀ v ∈ d.windows, v.shownAt p) :
    ∃ w, d.TopmostAt p w := by
  obtain ⟨hd, hp⟩ := h
  obtain ⟨w, hw⟩ := List.length_eq_one_iff.1 hd
  rw [hw] at hp
  refine ⟨w, hw ▸ List.mem_cons_self, hp w List.mem_cons_self, fun v hv _ => .inl ?_⟩
  rw [hw] at hv
  exact List.mem_singleton.1 hv

/-- The first press at a point is on this part of a window. No window was raised so far: their list is the stack. -/
def FirstPress (a : App) (now column row : Nat) (id : WindowId) (part : Part) : Prop :=
  a.launcherTakes ⟨column, row⟩ = false ∧ a.router.completes ⟨column, row⟩ now = false ∧
    a.desktop.windows.Pairwise (fun v w => v.notAbove w) ∧
    a.desktop.windows.reverse.findSome? (Window.hit? a.desktop.settings.metrics ⟨column, row⟩) = some (id, part)

theorem FirstPress.mouse_eq {now column row : Nat} {id : WindowId} {part : Part}
    (h : a.FirstPress now column row id part) :
    a.mouse now (leftPress column row) =
      { a with router := { a.router with pending := some (now, ⟨column, row⟩) } }.perform
        (Desktop.pressAction id ⟨column, row⟩ part) := by
  obtain ⟨ht, hc, hsorted, hhit⟩ := h
  refine mouse_of_hit ht ?_ hc
  rw [Desktop.hitTest_eq, Desktop.stacked_of_pairwise hsorted, hhit]

/-- The application with a note. -/
def noted : App := (start {} 80 24).after [(0, .key (.char '1') .press)]

/-- The note was maximized by its button, and covers the launcher. -/
def covered : App := (start {} 80 24).after [(0, .key (.char '1') .press), (0, .mouse (leftPress 40 1))]

theorem covered_eq :
    covered = { noted with router := { pending := some (0, ⟨40, 1⟩) } }.perform (.maximize ⟨1⟩) := by
  have h : noted.FirstPress 0 40 1 ⟨1⟩ (.control .maximize) := by
    unfold FirstPress
    decide +kernel
  exact h.mouse_eq

/-- The note is the only window, and at a point of the launcher; a press there opens a panel. -/
theorem covered_facts :
    (covered.desktop.windows.length = 1 ∧ ∀ v ∈ covered.desktop.windows, v.shownAt ⟨5, 2⟩) ∧
      ((launcherRect covered.desktop.page.viewport).contains ⟨5, 2⟩ ∧ covered.desktop.gesture = none) ∧
      covered.desktop.ids = [⟨1⟩] ∧ (covered.mouse 0 (leftPress 5 2)).desktop.ids = [⟨1⟩, ⟨2⟩] := by
  rw [covered_eq]
  decide +kernel

theorem covered_topmostAt : ∃ w, covered.desktop.TopmostAt ⟨5, 2⟩ w := topmostAt_only covered_facts.1

theorem mouse_routed_covered :
    ∃ w, covered.desktop.TopmostAt ⟨5, 2⟩ w ∧ covered.mouse 0 (leftPress 5 2) = covered.openRow 1 := by
  obtain ⟨w, hw⟩ := covered_topmostAt
  have h := mouse_routed {} 80 24 [(0, .key (.char '1') .press), (0, .mouse (leftPress 40 1))] 0 5 2 hw
  exact ⟨w, hw, (if_pos covered_facts.2.1).mp h⟩

/-- A press on the note opens a panel of the launcher that it covers. -/
theorem mouse_routed_fails_covered :
    (∃ w, covered.desktop.TopmostAt ⟨5, 2⟩ w) ∧ covered.desktop.ids = [⟨1⟩] ∧
      (covered.mouse 0 (leftPress 5 2)).desktop.ids = [⟨1⟩, ⟨2⟩] :=
  ⟨covered_topmostAt, covered_facts.2.2⟩

end App

end FloatingPanels

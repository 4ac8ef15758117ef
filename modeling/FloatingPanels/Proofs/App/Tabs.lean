import FloatingPanels.Proofs.App.Openings
import FloatingPanels.Proofs.Canvas.Bleed
import Mathlib.Data.List.Find
/-!
# Going round the windows

The tab key raises the lowest visible window. Pressed once for every visible window, it shows
each of them on top, in the order in which they were stacked, and leaves the hidden ones below.
Nothing but the heights of windows changes.
-/

namespace FloatingPanels

/-! ## Raising one window after the other -/

namespace Stack

variable {s : Stack} {p : WindowId → Bool} {ids : List WindowId} {id : WindowId} {j : Nat}

/-- The stack after some windows were raised, the first of them first. -/
def raiseAll (s : Stack) (ids : List WindowId) : Stack := s.filter (· ∉ ids) ++ ids

theorem raiseAll_nil (s : Stack) : s.raiseAll [] = s := by simp [raiseAll]

theorem raise_raiseAll (h : id ∉ ids) : (s.raiseAll ids).raise (some id) = s.raiseAll (ids ++ [id]) := by
  have hids : ids.filter (· ≠ id) = ids := without_of_not_mem h
  have hrest : (s.filter (· ∉ ids)).filter (· ≠ id) = s.filter (· ∉ ids ++ [id]) := by
    rw [List.filter_filter]
    refine List.filter_congr fun v _ => ?_
    simp [and_comm]
  rw [raise, without, raiseAll, List.filter_append, hids, hrest, raiseAll, List.append_assoc]

theorem filter_not_mem_take (hn : s.Nodup) (j : Nat) : s.filter (· ∉ s.take j) = s.drop j := by
  obtain ⟨-, -, hdisjoint⟩ := List.nodup_append'.1 (s.take_append_drop j ▸ hn)
  conv_lhs => arg 2; rw [← s.take_append_drop j]
  rw [List.filter_append, List.filter_eq_nil_iff.2, List.nil_append, List.filter_eq_self]
  · intro v hv
    simpa using fun hv' => hdisjoint hv' hv
  · intro v hv
    simpa using hv

/-- When the first of the windows that `p` holds of were raised, the next of them is the lowest. -/
theorem find?_raiseAll (hn : s.Nodup) (hj : (s.filter p)[j]? = some id) :
    (s.raiseAll ((s.filter p).take j)).find? p = some id := by
  have hfilter : (s.filter (· ∉ (s.filter p).take j)).filter p = (s.filter p).drop j := by
    rw [← filter_not_mem_take (hn.filter p) j, List.filter_filter, List.filter_filter]
    exact List.filter_congr fun v _ => Bool.and_comm _ _
  rw [← List.head?_filter, raiseAll, List.filter_append, hfilter, List.head?_append, List.head?_drop, hj]
  rfl

/-- The lowest window that `p` holds of is raised, if it holds of any. -/
def cycle (p : WindowId → Bool) (s : Stack) : Stack := s.raise (s.find? p)

/-- Step by step, the windows that `p` holds of are raised from the lowest to the highest. -/
theorem iterate_cycle (hn : s.Nodup) (hj : j ≤ (s.filter p).length) :
    (cycle p)^[j] s = s.raiseAll ((s.filter p).take j) := by
  induction j with
  | zero => exact s.raiseAll_nil.symm
  | succ j ih =>
    have hid : (s.filter p)[j]? = some (s.filter p)[j] := List.getElem?_eq_getElem hj
    have hnew : (s.filter p)[j] ∉ (s.filter p).take j := by
      intro hmem
      rw [List.mem_take_iff_getElem] at hmem
      obtain ⟨i, hi, he⟩ := hmem
      have := (hn.filter p).getElem_inj_iff.1 he
      omega
    rw [Function.iterate_succ_apply', ih (Nat.le_of_lt hj), cycle, find?_raiseAll hn hid, raise_raiseAll hnew,
      List.take_append_getElem]

/-- The windows 1 and 3 are visible, and 2 and 4 are not. -/
example : (cycle (· ∈ [(⟨1⟩ : WindowId), ⟨3⟩]))^[2] [⟨4⟩, ⟨1⟩, ⟨2⟩, ⟨3⟩] = [⟨4⟩, ⟨2⟩, ⟨1⟩, ⟨3⟩] := by decide

end Stack

/-! ## One press -/

theorem Window.flat_sink (z : Nat) (w : Window) : (w.sink z).flat = w.flat := by
  unfold sink
  split <;> rfl

namespace Desktop

/-- Whether a window is live and not hidden. -/
def isVisible (d : Desktop) (id : WindowId) : Bool := (d.window? id).any fun w => !w.mode.isHidden

/-- All of a desktop but the heights of its windows. -/
def flat (d : Desktop) : Desktop := { d with windows := d.windows.map Window.flat }

variable {d d' : Desktop} {s : Stack} {id : WindowId}

theorem flat_raise (d : Desktop) (id : WindowId) : (d.raise id).1.flat = d.flat := by
  cases hw : d.window? id with
  | none => simp only [raise, hw]
  | some w =>
    rw [raise_of_window? hw]
    split
    · rfl
    · simp only [flat, List.map_map]
      refine congrArg (fun ws => { d with windows := ws }) (List.map_congr_left fun v _ => ?_)
      rw [Function.comp_apply]
      split
      · rfl
      · exact Window.flat_sink w.z v

theorem ids_of_flat (h : d'.flat = d.flat) : d'.ids = d.ids := by
  have hids : ∀ d : Desktop, d.flat.ids = d.ids := fun d => List.map_map
  rw [← hids, h, hids]

theorem isVisible_of_flat (h : d'.flat = d.flat) : d'.isVisible = d.isVisible := by
  have hvisible : ∀ d : Desktop, d.flat.isVisible = d.isVisible := fun d => funext fun id => by
    have hwindow : d.flat.window? id = (d.window? id).map Window.flat :=
      window?_map (f := Window.flat) rfl (fun _ => rfl) id
    rw [isVisible, hwindow, Option.any_map]
    rfl
  rw [← hvisible, h, hvisible]

theorem StackedAs.isVisible (h : d.StackedAs s) {w : Window} (hw : w ∈ d.windows) :
    d.isVisible w.id = !w.mode.isHidden := by
  obtain ⟨v, hv⟩ := exists_window (isLive_of_mem hw)
  have hvw : w = v := eq_of_window? (h.perm.nodup_iff.1 h.nodup) hv hw rfl
  rw [Desktop.isVisible, hv, ← hvw]
  rfl

/-- The visible windows, from the lowest to the highest. -/
def visibleStack (d : Desktop) : Stack := d.stack.filter d.isVisible

def hiddenStack (d : Desktop) : Stack := d.stack.filter fun id => !d.isVisible id

end Desktop

namespace App

variable {a : App} {s : Stack}

/-- What the tab key makes of the application. -/
def tab (a : App) : App := (a.press .tab).1

/-- All of the application but the heights of windows. -/
def flat (a : App) : App := { a with session := { a.session with desktop := a.desktop.flat } }

theorem lowest_eq (h : a.desktop.StackedAs s) : a.lowest = s.find? a.desktop.isVisible := by
  rw [lowest, ← h.stack, Desktop.stack, List.find?_map]
  refine congrArg (Option.map Window.id) (List.find?_congr fun w hw => ?_)
  exact (h.isVisible (Desktop.mem_stacked.1 hw)).symm

theorem tab_stackedAs (h : a.desktop.StackedAs s) :
    a.tab.desktop.StackedAs (s.cycle a.desktop.isVisible) ∧ a.tab.flat = a.flat := by
  have htab : a.tab = a.onSome a.lowest .bringToFront := rfl
  rw [htab, lowest_eq h, Stack.cycle]
  cases hfind : s.find? a.desktop.isVisible with
  | none => exact ⟨h, rfl⟩
  | some id =>
    have hlive : a.desktop.isLive id := h.mem.1 (List.mem_of_find?_eq_some hfind)
    have hflat := a.desktop.flat_raise id
    have hperform : a.perform (.bringToFront id) =
        { a with session := { a.session with desktop := (a.desktop.raise id).1 } } := by
      have hsame := Machine.withDesktop_of_ids (s := a.session) (Desktop.ids_of_flat hflat)
      rw [← hsame, perform, Session.perform, show a.session.desktop = a.desktop from rfl,
        Desktop.perform_bringToFront hlive]
    rw [onSome, hperform]
    refine ⟨h.raise hlive, ?_⟩
    simp only [flat, desktop] at hflat ⊢
    rw [hflat]

/-! ## Any number of presses -/

theorem iterate_tab (h : a.desktop.StackedAs s) (n : Nat) :
    (tab^[n] a).desktop.StackedAs ((Stack.cycle a.desktop.isVisible)^[n] s) ∧ (tab^[n] a).flat = a.flat := by
  induction n with
  | zero => exact ⟨h, rfl⟩
  | succ n ih =>
    obtain ⟨hst, hflat⟩ := ih
    have hvisible : (tab^[n] a).desktop.isVisible = a.desktop.isVisible :=
      Desktop.isVisible_of_flat (congrArg App.desktop hflat)
    obtain ⟨hst', hflat'⟩ := tab_stackedAs hst
    rw [hvisible] at hst'
    rw [Function.iterate_succ_apply', Function.iterate_succ_apply']
    exact ⟨hst', hflat'.trans hflat⟩

/-- The tab key goes round the visible windows. -/
structure Cycles (a : App) : Prop where
  /-- The visible windows come to the top one after the other, in the order of their heights. -/
  turn : ∀ j id, a.desktop.visibleStack[j]? = some id → (tab^[j + 1] a).topmost = some id
  /-- When all of them have been there, they stand in their old order above the hidden windows. -/
  round : (tab^[a.desktop.visibleStack.length] a).desktop.stack = a.desktop.hiddenStack ++ a.desktop.visibleStack
  idle : a.desktop.visibleStack = [] → ∀ n, tab^[n] a = a
  /-- No press changes anything else. -/
  level : ∀ n, (tab^[n] a).flat = a.flat

theorem cycles_of_stackedAs (hst : a.desktop.StackedAs a.desktop.stack) : Cycles a := by
  have hstack : ∀ j ≤ a.desktop.visibleStack.length,
      (tab^[j] a).desktop.stack = Stack.raiseAll a.desktop.stack (a.desktop.visibleStack.take j) := fun j hj =>
    (iterate_tab hst j).1.stack.trans (Stack.iterate_cycle hst.nodup hj)
  refine ⟨fun j id hj => ?_, ?_, fun hnone n => ?_, fun n => (iterate_tab hst n).2⟩
  · obtain ⟨hlt, hget⟩ := List.getElem?_eq_some_iff.1 hj
    rw [topmost, hstack _ hlt, Stack.raiseAll, ← List.take_append_getElem hlt, hget, ← List.append_assoc,
      List.getLast?_concat]
  · rw [hstack _ le_rfl, List.take_length, Stack.raiseAll]
    refine congrArg (· ++ a.desktop.visibleStack) (List.filter_congr fun id hid => ?_)
    simp [Desktop.visibleStack, hid]
  · refine Function.iterate_fixed ?_ n
    have hfind : a.desktop.stack.find? a.desktop.isVisible = none :=
      List.find?_eq_none.2 fun id hid => List.filter_eq_nil_iff.1 hnone id hid
    have htab : a.tab = a.onSome a.lowest .bringToFront := rfl
    rw [htab, lowest_eq hst, hfind]
    rfl

/-- At every moment of the application, the tab key goes round the windows that are visible then. -/
theorem tab_cycles (l : CommandLine) (columns rows : Nat) (events : List (Nat × Event)) :
    Cycles ((start l columns rows).after events) :=
  cycles_of_stackedAs ((reached_after l columns rows events).stackedAs (isNew_start l columns rows))

end App

end FloatingPanels

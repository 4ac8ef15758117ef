import FloatingPanels.Desktop.Basic
import Mathlib.Data.List.Nodup
import Mathlib.Data.List.Sort
/-!
# The stack of a desktop

Each window holds its own height, and every operation that moves or removes one
renumbers the others in place. `StackedAs` says that the heights are the positions in
a plain list; raising a window is then a move to the end of that list, and removing
one is its deletion. Whatever is `StackedAs` a list shows exactly that list as its
stack.
-/

namespace FloatingPanels

/-- Windows from bottom to top. -/
abbrev Stack := List WindowId

namespace Stack

def without (s : Stack) (id : WindowId) : Stack := s.filter (· ≠ id)

/-- The stack after a window was raised, if one was. -/
def raise (s : Stack) : Option WindowId → Stack
  | none => s
  | some id => s.without id ++ [id]

theorem mem_without {s : Stack} {id v : WindowId} : v ∈ s.without id ↔ v ∈ s ∧ v ≠ id := by
  simp [without]

theorem without_of_not_mem {s : Stack} {id : WindowId} (h : id ∉ s) : s.without id = s := by
  refine List.filter_eq_self.2 fun v hv => ?_
  rw [decide_eq_true_iff]
  rintro rfl
  exact h hv

theorem mem_raise {s : Stack} {id v : WindowId} : v ∈ s.raise (some id) ↔ v ∈ s ∨ v = id := by
  rw [raise, List.mem_append, mem_without, List.mem_singleton]
  by_cases h : v = id <;> simp [h]

theorem nodup_raise {s : Stack} (hn : s.Nodup) (r : Option WindowId) : (s.raise r).Nodup := by
  cases r with
  | none => exact hn
  | some id =>
    refine List.nodup_append_comm.2 (List.nodup_cons.2 ⟨fun h => ?_, hn.filter _⟩)
    exact (mem_without.1 h).2 rfl

/-- Raising the same window again changes nothing. -/
theorem raise_raise (s : Stack) (id : WindowId) : (s.raise (some id)).raise (some id) = s.raise (some id) := by
  simp [raise, without, List.filter_append, List.filter_filter]

theorem perm_raise {s : Stack} (hn : s.Nodup) {id : WindowId} (h : id ∈ s) : (s.raise (some id)).Perm s := by
  refine (List.perm_ext_iff_of_nodup (nodup_raise hn _) hn).2 fun v => ?_
  rw [mem_raise]
  constructor
  · rintro (hv | rfl)
    · exact hv
    · exact h
  · exact .inl

/-- Without a window, those above it are one place lower. -/
theorem idxOf_without {s : Stack} (hn : s.Nodup) {id v : WindowId} (hid : id ∈ s) (hne : v ≠ id) :
    (s.without id).idxOf v = if s.idxOf id < s.idxOf v then s.idxOf v - 1 else s.idxOf v := by
  induction s with
  | nil => cases hid
  | cons a s ih =>
    rw [List.nodup_cons] at hn
    by_cases ha : a = id
    · -- The window is at the head: all others are above it.
      subst ha
      have hw : without (a :: s) a = s := by
        have := without_of_not_mem hn.1
        simpa [without] using this
      rw [hw, List.idxOf_cons_self, List.idxOf_cons_ne s (Ne.symm hne)]
      simp
    · have hids : id ∈ s := (List.mem_cons.1 hid).resolve_left (Ne.symm ha)
      have hw : without (a :: s) id = a :: without s id := by simp [without, ha]
      rw [hw, List.idxOf_cons_ne s ha]
      by_cases hv : a = v
      · subst hv
        simp
      · rw [List.idxOf_cons_ne _ hv, List.idxOf_cons_ne s hv, ih hn.2 hids]
        split <;> split <;> omega

end Stack

theorem Window.sink_id (z : Nat) (w : Window) : (w.sink z).id = w.id := by
  unfold sink
  split <;> rfl

theorem Window.sink_z (z : Nat) (w : Window) : (w.sink z).z = if z < w.z then w.z - 1 else w.z := by
  unfold sink
  split <;> rfl

namespace Desktop

/-! ## Live windows -/

theorem mem_of_window? {d : Desktop} {id : WindowId} {w : Window} (h : d.window? id = some w) :
    w ∈ d.windows ∧ w.id = id :=
  ⟨List.mem_of_find?_eq_some h, by simpa using List.find?_some h⟩

theorem isLive_of_window? {d : Desktop} {id : WindowId} {w : Window} (h : d.window? id = some w) : d.isLive id :=
  Option.isSome_iff_exists.2 ⟨w, h⟩

theorem exists_window {d : Desktop} {id : WindowId} (h : d.isLive id) : ∃ w, d.window? id = some w :=
  Option.isSome_iff_exists.1 h

theorem isLive_iff_mem_ids {d : Desktop} {id : WindowId} : d.isLive id = true ↔ id ∈ d.ids := by
  simp [isLive, window?, ids, List.find?_isSome]

theorem isLive_of_mem {d : Desktop} {w : Window} (hw : w ∈ d.windows) : d.isLive w.id :=
  isLive_iff_mem_ids.2 (List.mem_map_of_mem hw)

/-- With distinct numbers, a window that is found is the only one of its number. -/
theorem eq_of_window? {d : Desktop} (hn : d.ids.Nodup) {id : WindowId} {w v : Window} (h : d.window? id = some w)
    (hv : v ∈ d.windows) (hid : v.id = id) : v = w :=
  List.inj_on_of_nodup_map hn hv (mem_of_window? h).1 (hid.trans (mem_of_window? h).2.symm)

theorem raise_of_window? {d : Desktop} {id : WindowId} {w : Window} (h : d.window? id = some w) :
    (d.raise id).1 = if w.z = d.windows.length then d else
      { d with windows := d.windows.map fun v =>
          if v.id = id then { v with z := d.windows.length } else v.sink w.z } := by
  simp only [raise, h]
  split <;> rfl

/-! ## Heights as positions -/

/-- The live windows are those of a list, and each has its place in the list, counted
from one, as its height. -/
structure StackedAs (d : Desktop) (s : Stack) : Prop where
  perm : s.Perm d.ids
  nodup : s.Nodup
  height : ∀ w ∈ d.windows, w.z = s.idxOf w.id + 1

variable {d d' : Desktop} {s : Stack}

theorem StackedAs.mem (h : d.StackedAs s) {id : WindowId} : id ∈ s ↔ d.isLive id := by
  rw [h.perm.mem_iff, isLive_iff_mem_ids]

theorem StackedAs.mem_of_window (h : d.StackedAs s) {w : Window} (hw : w ∈ d.windows) : w.id ∈ s :=
  h.mem.2 (isLive_of_mem hw)

theorem StackedAs.length (h : d.StackedAs s) : s.length = d.windows.length := by
  rw [h.perm.length_eq, ids, List.length_map]

/-- Heights and numbers are all that counts. -/
theorem StackedAs.congr (h : d.StackedAs s)
    (he : (d'.windows.map fun w => (w.id, w.z)) = d.windows.map fun w => (w.id, w.z)) : d'.StackedAs s := by
  have hids : d'.ids = d.ids := by
    have := congrArg (List.map Prod.fst) he
    rwa [List.map_map, List.map_map] at this
  refine ⟨hids ▸ h.perm, h.nodup, fun w hw => ?_⟩
  have hm : (w.id, w.z) ∈ d.windows.map fun w => (w.id, w.z) := he ▸ List.mem_map_of_mem hw
  obtain ⟨v, hv, hvw⟩ := List.mem_map.1 hm
  obtain ⟨hid, hz⟩ := Prod.mk.inj hvw
  rw [← hz, ← hid]
  exact h.height v hv

/-- A window that sinks below the height of another is where it would be without the
other. -/
theorem StackedAs.sink (h : d.StackedAs s) {v w : Window} (hv : v ∈ d.windows) (hw : w ∈ d.windows)
    (hne : v.id ≠ w.id) : (v.sink w.z).z = (s.without w.id).idxOf v.id + 1 := by
  have hpos : s.idxOf v.id ≠ s.idxOf w.id := fun he => hne ((List.idxOf_inj (h.mem_of_window hv)).1 he)
  rw [Window.sink_z, h.height v hv, h.height w hw, Stack.idxOf_without h.nodup (h.mem_of_window hw) hne]
  split <;> split <;> omega

/-- The last place in a list that a window was moved to the end of. -/
theorem StackedAs.idxOf_raise (h : d.StackedAs s) {w : Window} (hw : w ∈ d.windows) :
    (s.raise (some w.id)).idxOf w.id + 1 = d.windows.length := by
  have hnot : w.id ∉ s.without w.id := fun hi => (Stack.mem_without.1 hi).2 rfl
  rw [← h.length, ← (Stack.perm_raise h.nodup (h.mem_of_window hw)).length_eq, Stack.raise,
    List.idxOf_append_of_notMem hnot, List.idxOf_cons_self, List.length_append]
  rfl

theorem StackedAs.sink_raise (h : d.StackedAs s) {v w : Window} (hv : v ∈ d.windows) (hw : w ∈ d.windows)
    (hne : v.id ≠ w.id) : (v.sink w.z).z = (s.raise (some w.id)).idxOf v.id + 1 := by
  rw [Stack.raise, List.idxOf_append_of_mem (Stack.mem_without.2 ⟨h.mem_of_window hv, hne⟩)]
  exact h.sink hv hw hne

theorem StackedAs.le_length (h : d.StackedAs s) {w : Window} (hw : w ∈ d.windows) : w.z ≤ d.windows.length := by
  rw [h.height w hw, ← h.length]
  exact List.idxOf_lt_length_of_mem (h.mem_of_window hw)

theorem StackedAs.raise (h : d.StackedAs s) {id : WindowId} (hl : d.isLive id) :
    (d.raise id).1.StackedAs (s.raise (some id)) := by
  obtain ⟨w, hw⟩ := exists_window hl
  obtain ⟨hm, rfl⟩ := mem_of_window? hw
  have hperm : (s.raise (some w.id)).Perm d.ids :=
    (Stack.perm_raise h.nodup (h.mem_of_window hm)).trans h.perm
  rw [raise_of_window? hw]
  split
  · -- The window is the topmost: it is last in the list already, and nothing is above it.
    rename_i hz
    refine ⟨hperm, Stack.nodup_raise h.nodup _, fun v hv => ?_⟩
    by_cases hv' : v.id = w.id
    · rw [hv', h.idxOf_raise hm, ← hz, h.height v hv, hv', ← h.height w hm]
    · rw [← h.sink_raise hv hm hv', Window.sink_z, if_neg]
      rw [hz]
      exact Nat.not_lt.2 (h.le_length hv)
  · refine ⟨?_, Stack.nodup_raise h.nodup _, fun v hv => ?_⟩
    · have hids : (d.windows.map fun v =>
          if v.id = w.id then { v with z := d.windows.length } else v.sink w.z).map Window.id = d.ids := by
        rw [List.map_map]
        refine List.map_congr_left fun v _ => ?_
        by_cases hv : v.id = w.id <;> simp [hv, Window.sink_id]
      rw [ids, hids]
      exact hperm
    · obtain ⟨v₀, hv₀, rfl⟩ := List.mem_map.1 hv
      by_cases hne : v₀.id = w.id
      · rw [if_pos hne]
        show d.windows.length = (s.raise (some w.id)).idxOf v₀.id + 1
        rw [hne, h.idxOf_raise hm]
      · rw [if_neg hne, Window.sink_id]
        exact h.sink_raise hv₀ hm hne

/-- A new window on top of all others. -/
theorem StackedAs.add (h : d.StackedAs s) {w : Window} (hnew : d.isLive w.id = false)
    (hz : w.z = d.windows.length + 1) (hw : d'.windows = d.windows ++ [w]) : d'.StackedAs (s ++ [w.id]) := by
  have hnot : w.id ∉ s := fun hm => by rw [h.mem, hnew] at hm; cases hm
  refine ⟨?_, List.nodup_append_comm.2 (List.nodup_cons.2 ⟨hnot, h.nodup⟩), fun v hv => ?_⟩
  · have : d'.ids = d.ids ++ [w.id] := by rw [ids, hw, List.map_append]; rfl
    rw [this]
    exact h.perm.append_right _
  · rw [hw, List.mem_append, List.mem_singleton] at hv
    rcases hv with hv | rfl
    · rw [List.idxOf_append_of_mem (h.mem_of_window hv)]
      exact h.height v hv
    · rw [List.idxOf_append_of_notMem hnot, List.idxOf_cons_self, hz, h.length, Nat.add_zero]

/-- A window is taken away and those above it sink. -/
theorem StackedAs.remove (h : d.StackedAs s) {w : Window} (hm : w ∈ d.windows)
    (hw : d'.windows = (d.windows.filter fun v => v.id ≠ w.id).map (Window.sink w.z)) :
    d'.StackedAs (s.without w.id) := by
  refine ⟨?_, h.nodup.filter _, fun v hv => ?_⟩
  · have : d'.ids = d.ids.filter (· ≠ w.id) := by
      rw [ids, hw, List.map_map, ids, List.filter_map]
      exact List.map_congr_left fun v _ => Window.sink_id _ v
    rw [this]
    exact h.perm.filter _
  · rw [hw] at hv
    obtain ⟨v₀, hv₀, rfl⟩ := List.mem_map.1 hv
    obtain ⟨hv₀, hne⟩ := List.mem_filter.1 hv₀
    rw [Window.sink_id]
    exact h.sink hv₀ hm (by simpa using hne)

/-! ## What the heights show -/

theorem StackedAs.z (h : d.StackedAs s) {id : WindowId} (hl : d.isLive id) : d.z id = s.idxOf id + 1 := by
  obtain ⟨w, hw⟩ := exists_window hl
  obtain ⟨hm, rfl⟩ := mem_of_window? hw
  rw [Desktop.z, hw]
  exact h.height w hm

/-- Sorting the windows by their heights gives the list back. -/
theorem StackedAs.stack (h : d.StackedAs s) : d.stack = s := by
  have hsorted : d.stacked.Pairwise fun v w => v.notAbove w := by
    refine List.pairwise_mergeSort (fun u v w huv hvw => ?_) (fun v w => ?_) d.windows
    · simp only [Window.notAbove, Bool.or_eq_true, Bool.and_eq_true, decide_eq_true_eq] at *
      omega
    · simp only [Window.notAbove, Bool.or_eq_true, Bool.and_eq_true, decide_eq_true_eq]
      omega
  have hmem : ∀ w ∈ d.stacked, w ∈ d.windows := fun w hw => (List.mergeSort_perm _ _).mem_iff.1 hw
  have hperm : d.stack.Perm s := ((List.mergeSort_perm d.windows _).map Window.id).trans h.perm.symm
  -- Both lists have the same windows and are sorted by the places in `s`.
  have hanti : ∀ u v, u ∈ d.stack → v ∈ s → s.idxOf u ≤ s.idxOf v → s.idxOf v ≤ s.idxOf u → u = v :=
    fun u v hu _ huv hvu => (List.idxOf_inj (hperm.mem_iff.1 hu)).1 (Nat.le_antisymm huv hvu)
  refine List.Perm.eq_of_pairwise hanti ?_ ?_ hperm
  · refine List.pairwise_map.2 (hsorted.imp_of_mem fun {v w} hv hw hvw => ?_)
    have hv := h.height v (hmem v hv)
    have hw := h.height w (hmem w hw)
    simp only [Window.notAbove, Bool.or_eq_true, Bool.and_eq_true, decide_eq_true_eq] at hvw
    omega
  · refine List.pairwise_iff_getElem.2 fun i j hi hj hij => ?_
    rw [h.nodup.idxOf_getElem, h.nodup.idxOf_getElem]
    exact Nat.le_of_lt hij

end Desktop

end FloatingPanels

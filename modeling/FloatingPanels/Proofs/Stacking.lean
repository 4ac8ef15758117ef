import FloatingPanels.Proofs.Integrity
/-!
# Stacking

The heights of windows stand for a plain list that begins empty: a window that is
registered comes to the end of it, one that is raised goes to the end, and one that is
removed is dropped. `run_stacking` says that the desktop shows exactly this list, at
every moment of every run.
-/

namespace FloatingPanels

namespace Stack

/-- What is left of a list keeps its order. -/
theorem idxOf_filter_lt {s : Stack} {p : WindowId → Bool} {i j : WindowId} (hi : i ∈ s.filter p) (hj : j ∈ s.filter p) :
    (s.filter p).idxOf i < (s.filter p).idxOf j ↔ s.idxOf i < s.idxOf j := by
  induction s with
  | nil => cases hi
  | cons a s ih =>
    by_cases hp : p a
    · rw [List.filter_cons_of_pos hp] at hi hj ⊢
      by_cases hai : a = i
      · subst hai
        by_cases haj : a = j
        · simp [haj]
        · simp [List.idxOf_cons_ne _ haj]
      · by_cases haj : a = j
        · subst haj
          simp
        · rw [List.idxOf_cons_ne _ hai, List.idxOf_cons_ne _ haj, List.idxOf_cons_ne _ hai, List.idxOf_cons_ne _ haj]
          have := ih ((List.mem_cons.1 hi).resolve_left (Ne.symm hai)) ((List.mem_cons.1 hj).resolve_left (Ne.symm haj))
          omega
    · rw [List.filter_cons_of_neg hp] at hi hj ⊢
      have hai : a ≠ i := fun h => hp (h ▸ (List.mem_filter.1 hi).2)
      have haj : a ≠ j := fun h => hp (h ▸ (List.mem_filter.1 hj).2)
      rw [List.idxOf_cons_ne _ hai, List.idxOf_cons_ne _ haj, ih hi hj]
      omega

/-- The list after one operation: one window is raised, some may be gone, and one may
have come. -/
def after (s : Stack) (raised : Option WindowId) (live : WindowId → Bool) (added : Option WindowId) : Stack :=
  (s.raise raised).filter live ++ added.toList

/-- Windows that are neither raised nor removed keep their order. -/
theorem idxOf_after_lt {s : Stack} {raised added : Option WindowId} {live : WindowId → Bool} {i j : WindowId}
    (hi : i ∈ s) (hj : j ∈ s) (hli : live i) (hlj : live j) (hri : raised ≠ some i) (hrj : raised ≠ some j) :
    (s.after raised live added).idxOf i < (s.after raised live added).idxOf j ↔ s.idxOf i < s.idxOf j := by
  -- Both are kept by one filter, with what was raised or has come after them.
  obtain ⟨p, rest, hp, hpi, hpj⟩ : ∃ p : WindowId → Bool, ∃ rest, s.after raised live added = s.filter p ++ rest ∧
      p i ∧ p j := by
    cases raised with
    | none => exact ⟨live, _, rfl, hli, hlj⟩
    | some id =>
      have hi' : i ≠ id := fun h => hri (h ▸ rfl)
      have hj' : j ≠ id := fun h => hrj (h ▸ rfl)
      refine ⟨fun v => live v && decide (v ≠ id), ([id].filter live) ++ added.toList, ?_, ?_, ?_⟩
      · rw [after, raise, List.filter_append, without, List.filter_filter, List.append_assoc]
      · simp [hli, hi']
      · simp [hlj, hj']
  have hi' : i ∈ s.filter p := List.mem_filter.2 ⟨hi, hpi⟩
  have hj' : j ∈ s.filter p := List.mem_filter.2 ⟨hj, hpj⟩
  rw [hp, List.idxOf_append_of_mem hi', List.idxOf_append_of_mem hj', idxOf_filter_lt hi' hj']

end Stack

variable {d₀ d d' : Desktop} {m m' : Machine} {ms : List Machine} {s : Stack}

/-- An operation does to the heights what it does to the list. -/
theorem Desktop.Effect.stackedAs {raised : Option WindowId} {added : Option (WindowId × String)}
    (he : d.Effect d' raised added) (h : d.StackedAs s) :
    d'.StackedAs (s.after raised d'.isLive (added.map Prod.fst)) := by
  have keep : ∀ {s : Stack} {r : Option WindowId}, d'.StackedAs (s.raise r) →
      d'.StackedAs (s.after r d'.isLive none) := by
    intro s r h'
    have : (s.raise r).filter d'.isLive = s.raise r := List.filter_eq_self.2 fun i hi => h'.mem.1 hi
    rwa [Stack.after, this, Option.toList_none, List.append_nil]
  cases he with
  | alike ha => exact keep (ha.stacked s h)
  | claim _ _ he => exact keep (he.stacked s h)
  | hide _ _ _ _ he => exact keep (he.stacked s h)
  | reveal d₁ h₁ _ he => exact keep (h₁.stacked s (he.stacked s h))
  | add _ _ _ _ _ _ _ _ _ _ hs =>
    have h' := hs s h
    have : s.filter d'.isLive = s := List.filter_eq_self.2 fun i hi => h'.mem.1 (List.mem_append_left _ hi)
    rw [Stack.after, Stack.raise, this]
    exact h'
  | @remove w _ _ _ _ _ _ _ _ hs =>
    have h' := hs s h
    have : s.filter d'.isLive = s.without w.id := by
      refine List.filter_congr fun i hi => ?_
      rw [Bool.eq_iff_iff, ← h'.mem, Stack.mem_without, decide_eq_true_iff]
      exact ⟨And.right, fun hne => ⟨hi, hne⟩⟩
    rw [Stack.after, Stack.raise, this, Option.map_none, Option.toList_none, List.append_nil]
    exact h'

/-- The list that a run has come to. -/
def stackings : List Machine → Stack :=
  Run.trace (fun m m' (s : Stack) => s.after m.raised? m'.desktop.isLive (m.registered?.map Prod.fst)) []

theorem run_stackedAs (h₀ : d₀.IsNew) (h : Run d₀ (m :: ms)) : m.desktop.StackedAs (stackings (m :: ms)) := by
  have hinv := h.trace_inv (f := fun m m' (s : Stack) => s.after m.raised? m'.desktop.isLive (m.registered?.map Prod.fst))
    (b := ([] : Stack)) (P := fun m s => m.desktop.Sound ∧ m.desktop.StackedAs s) (fun p => ⟨h₀.sound, ?_⟩) ?_
  · exact hinv.2
  · refine ⟨?_, .nil, ?_⟩
    · simp [Machine.start, Machine.desktop, Desktop.ids, h₀.windows]
    · simp [Machine.start, Machine.desktop, h₀.windows]
  · rintro m m' s hn ⟨hs, hst⟩
    have he := Machine.next_desktop hn hs
    exact ⟨he.sound hs, he.stackedAs hst⟩

/-- The heights of `n` windows are the numbers from one to `n`. -/
theorem Desktop.StackedAs.heights (h : d.StackedAs s) :
    (d.windows.map Window.z).Perm (List.range' 1 d.windows.length) := by
  have hmap : d.windows.map Window.z = d.ids.map fun id => s.idxOf id + 1 := by
    rw [Desktop.ids, List.map_map]
    exact List.map_congr_left fun w hw => h.height w hw
  have hrange : (s.map fun id => s.idxOf id + 1) = List.range' 1 d.windows.length := by
    refine List.ext_getElem (by simp [h.length]) fun n hn _ => ?_
    rw [List.getElem_map, h.nodup.idxOf_getElem, List.getElem_range']
    omega
  rw [hmap, ← hrange]
  exact h.perm.symm.map _

/-- What the stack shows at a moment, given the list. -/
structure Stacking (m : Machine) (s : Stack) : Prop where
  stack : m.desktop.stack = s
  nodup : s.Nodup
  mem : ∀ id, id ∈ s ↔ m.desktop.isLive id
  /-- The height of a window is its place in the list, counted from one. -/
  z : ∀ id, m.desktop.isLive id → m.desktop.z id = s.idxOf id + 1
  heights : (m.desktop.windows.map Window.z).Perm (List.range' 1 m.desktop.windows.length)
  /-- Whatever comes next, the windows that it neither raises nor removes keep their
  order. -/
  order : ∀ m', m.Next m' → ∀ i j, m.desktop.isLive i → m.desktop.isLive j → m'.desktop.isLive i →
    m'.desktop.isLive j → m.raised? ≠ some i → m.raised? ≠ some j →
    (m'.desktop.z i < m'.desktop.z j ↔ m.desktop.z i < m.desktop.z j)

/-- The stack refines the list of windows in the order in which they were registered or
raised last. -/
theorem run_stacking (h₀ : d₀.IsNew) (h : Run d₀ (m :: ms)) : Stacking m (stackings (m :: ms)) := by
  have hst := run_stackedAs h₀ h
  refine ⟨hst.stack, hst.nodup, fun id => hst.mem, fun id hl => hst.z hl, hst.heights, ?_⟩
  intro m' hn i j hi hj hi' hj' hri hrj
  have hst' := run_stackedAs h₀ (h.next hn)
  rw [hst'.z hi', hst'.z hj', hst.z hi, hst.z hj, Nat.add_lt_add_iff_right, Nat.add_lt_add_iff_right]
  exact Stack.idxOf_after_lt (hst.mem.2 hi) (hst.mem.2 hj) hi' hj' hri hrj

/-- A host that creates three windows, raises the lowest and destroys the next. -/
def raiseAndDestroy : Program :=
  .create [.passive { kind := "note" }, .passive { kind := "note" }, .passive { kind := "note" }] fun _ =>
    .then_ (.bringToFront ⟨1⟩) (.then_ (.destroy ⟨2⟩) .accept)

theorem run_stacking_raiseAndDestroy :
    Desktop.plain.IsNew ∧
      Stacking (Machine.step^[20] (.start { desktop := .plain } raiseAndDestroy))
        (stackings (Machine.moments (.start { desktop := .plain } raiseAndDestroy) 20)) ∧
      stackings (Machine.moments (.start { desktop := .plain } raiseAndDestroy) 20) = [⟨3⟩, ⟨1⟩] :=
  ⟨Desktop.isNew_plain, run_stacking Desktop.isNew_plain (Run.moments raiseAndDestroy 20), by decide +kernel⟩

end FloatingPanels

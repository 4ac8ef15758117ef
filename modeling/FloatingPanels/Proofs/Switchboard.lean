import FloatingPanels.Session.Switchboard
import FloatingPanels.Proofs.Keyed
/-!
# Laws of the switchboard

What each operation does to the handler of a line and to the calls that are going
on. After this file nobody looks into the operations again.
-/

namespace FloatingPanels.Switchboard

/-- The handler that can be called for a line. -/
def handler? (s : Switchboard) (l : Line) : Option Handler := s.handlers.value? l

theorem has_eq (s : Switchboard) (l : Line) : s.has l = (s.handler? l).isSome :=
  (Keyed.value?_isSome s.handlers l).symm

/-! ## Handlers -/

theorem handler?_subscribe (s : Switchboard) (l k : Line) (h : Handler) :
    (s.subscribe l h).handler? k = if l = k then some h else s.handler? k :=
  Keyed.value?_set s.handlers l k h

theorem handler?_unsubscribe (s : Switchboard) (l k : Line) :
    (s.unsubscribe l).1.handler? k = if l = k then none else s.handler? k :=
  Keyed.value?_remove s.handlers l k

theorem handler?_forget (s : Switchboard) (gone : List WindowId) (k : Line) :
    (s.forget gone).handler? k = if k.id ∈ gone then none else s.handler? k := by
  have h := Keyed.value?_filter s.handlers (fun l => decide (l.id ∉ gone)) k
  simp only [decide_eq_true_eq] at h
  by_cases hk : k.id ∈ gone
  · rw [if_neg (not_not.2 hk)] at h
    rw [if_pos hk]; exact h
  · rw [if_pos hk] at h
    rw [if_neg hk]; exact h

theorem take?_eq_some {s s' : Switchboard} {l : Line} {h : Handler} (ht : s.take? l = some (h, s')) :
    s.handler? l = some h ∧ s'.calls = { line := l } :: s.calls ∧
      ∀ k, s'.handler? k = if l = k then none else s.handler? k := by
  obtain ⟨h', hv, he⟩ := Option.map_eq_some_iff.1 ht
  cases he
  exact ⟨hv, rfl, fun k => Keyed.value?_remove s.handlers l k⟩

/-- A handler that comes back changes nothing but its own line, and that only if its
window is live. -/
theorem handler?_restore (s : Switchboard) (d : Desktop) (l k : Line) (h : Handler) :
    (s.restore d l h).handler? k = s.handler? k ∨ l = k ∧ d.isLive l.id := by
  simp only [restore]
  split
  · exact .inl rfl
  · rename_i hc
    by_cases hk : l = k
    · refine .inr ⟨hk, ?_⟩
      by_contra hl
      exact hc (by simp [hl])
    · exact .inl ((Keyed.value?_set s.handlers l k h).trans (if_neg hk))

/-- A handler that comes back from the innermost call of all. -/
theorem restore_of_head {s : Switchboard} {d : Desktop} {l : Line} {h : Handler} {c : Call} {cs : List Call}
    (hc : s.calls = c :: cs) (hl : c.line = l) :
    (s.restore d l h).calls = cs ∧ ∀ k, (s.restore d l h).handler? k =
      if l = k ∧ c.ended = false ∧ d.isLive l.id ∧ s.has l = false then some h else s.handler? k := by
  have he : endCall l s.calls = (some c, cs) := by rw [hc, endCall, if_pos hl]
  simp only [restore, he, Option.map_some, Option.getD_some]
  refine ⟨trivial, fun k => ?_⟩
  by_cases hk : c.ended = false ∧ d.isLive l.id ∧ s.has l = false
  · simp only [hk, and_true]
    exact Keyed.value?_set s.handlers l k h
  · have hcond : (c.ended || !d.isLive l.id || s.has l) = true := by
      by_contra hn
      simp only [Bool.not_eq_true, Bool.or_eq_false_iff, Bool.not_eq_false'] at hn
      exact hk ⟨hn.1.1, hn.1.2, hn.2⟩
    simp only [hcond, if_true, hk, and_false, if_false]
    rfl

/-! ## The lines of one window -/

/-- The calls that are going on to the handlers of a window, the innermost first. -/
def callsOf (s : Switchboard) (id : WindowId) : List Call := s.calls.filter fun c => c.line.id = id

/-- A window has the same handlers, and the same calls to it are going on, of which the
same are ended. -/
structure SameFor (s s' : Switchboard) (id : WindowId) : Prop where
  handlers : ∀ tag, s'.handler? ⟨id, tag⟩ = s.handler? ⟨id, tag⟩
  calls : s'.callsOf id = s.callsOf id

theorem SameFor.refl (s : Switchboard) (id : WindowId) : SameFor s s id := ⟨fun _ => rfl, rfl⟩

theorem SameFor.trans {s s' s'' : Switchboard} {id : WindowId} (h : SameFor s s' id) (h' : SameFor s' s'' id) :
    SameFor s s'' id := ⟨fun tag => (h'.handlers tag).trans (h.handlers tag), h'.calls.trans h.calls⟩

theorem sameFor_forget (s : Switchboard) {gone : List WindowId} {id : WindowId} (hid : id ∉ gone) :
    SameFor s (s.forget gone) id :=
  ⟨fun tag => by rw [handler?_forget, if_neg hid], rfl⟩

section

variable {l : Line} {id : WindowId} (hl : l.id ≠ id)
include hl

theorem line_ne (tag : String) : l ≠ ⟨id, tag⟩ := fun h => hl (congrArg Line.id h)

theorem sameFor_subscribe (s : Switchboard) (h : Handler) : SameFor s (s.subscribe l h) id :=
  ⟨fun tag => by rw [handler?_subscribe, if_neg (line_ne hl tag)], rfl⟩

theorem sameFor_unsubscribe (s : Switchboard) : SameFor s (s.unsubscribe l).1 id := by
  refine ⟨fun tag => by rw [handler?_unsubscribe, if_neg (line_ne hl tag)], ?_⟩
  simp only [callsOf, unsubscribe]
  induction s.calls with
  | nil => rfl
  | cons c cs ih =>
    rw [List.map_cons, List.filter_cons, List.filter_cons, ih]
    by_cases hc : active l c
    · -- A call that is ended is one of the other window, before and after.
      have hline : c.line = l := by simpa using (Bool.and_eq_true_iff.1 hc).1
      simp [hc, hline, hl]
    · simp [hc]

theorem sameFor_take {s s' : Switchboard} {h : Handler} (ht : s.take? l = some (h, s')) : SameFor s s' id := by
  obtain ⟨-, hcalls, hhandlers⟩ := take?_eq_some ht
  refine ⟨fun tag => by rw [hhandlers, if_neg (line_ne hl tag)], ?_⟩
  rw [callsOf, hcalls, List.filter_cons_of_neg (by simpa using hl), callsOf]

theorem filter_endCall (cs : List Call) :
    (endCall l cs).2.filter (fun c => c.line.id = id) = cs.filter fun c => c.line.id = id := by
  induction cs with
  | nil => rfl
  | cons c cs ih =>
    by_cases hc : c.line = l
    · simp [endCall, hc, hl]
    · simp only [endCall, hc, if_false]
      rw [List.filter_cons, List.filter_cons, ih]

theorem sameFor_restore (s : Switchboard) (d : Desktop) (h : Handler) : SameFor s (s.restore d l h) id :=
  ⟨fun tag => (handler?_restore s d l ⟨id, tag⟩ h).resolve_right fun hk => line_ne hl tag hk.1,
    filter_endCall hl s.calls⟩

end

/-! ## The next target -/

/-- The targets that a broadcast comes to in one step: it passes over those without
a handler and stops at the first that has one. -/
def reached (s : Switchboard) (tag : String) : List WindowId → List WindowId
  | [] => []
  | id :: ids => id :: if s.has ⟨id, tag⟩ then [] else reached s tag ids

theorem nextTarget_none {s : Switchboard} {tag : String} {ids : List WindowId}
    (h : s.nextTarget tag ids = none) : s.reached tag ids = ids ∧ ∀ id ∈ ids, s.has ⟨id, tag⟩ = false := by
  induction ids with
  | nil => simp [reached]
  | cons id ids ih =>
    rw [nextTarget] at h
    split at h
    · cases h
    · rename_i ht
      have hn : s.has ⟨id, tag⟩ = false := by
        have : s.handler? ⟨id, tag⟩ = none := Option.map_eq_none_iff.1 ht
        rw [has_eq, this]; rfl
      obtain ⟨h1, h2⟩ := ih h
      refine ⟨by simp [reached, hn, h1], fun i hi => ?_⟩
      rcases List.mem_cons.1 hi with rfl | hi
      · exact hn
      · exact h2 i hi

/-- The next target is the last one reached, and the only one of those with a handler. -/
theorem nextTarget_some {s s' : Switchboard} {tag : String} {ids rest : List WindowId} {id : WindowId} {h : Handler}
    (hs : s.nextTarget tag ids = some (id, h, s', rest)) :
    s.take? ⟨id, tag⟩ = some (h, s') ∧ ∃ passed, s.reached tag ids = passed ++ [id] ∧ ids = passed ++ id :: rest ∧
      ∀ i ∈ passed, s.has ⟨i, tag⟩ = false := by
  induction ids with
  | nil => cases hs
  | cons i ids ih =>
    rw [nextTarget] at hs
    split at hs
    · rename_i h' s'' ht
      obtain ⟨rfl, rfl, rfl, rfl⟩ : i = id ∧ h' = h ∧ s'' = s' ∧ ids = rest := by simpa using hs
      have hh : s.has ⟨i, tag⟩ = true := by rw [has_eq, (take?_eq_some ht).1]; rfl
      exact ⟨ht, [], by simp [reached, hh]⟩
    · rename_i ht
      have hn : s.has ⟨i, tag⟩ = false := by
        have : s.handler? ⟨i, tag⟩ = none := Option.map_eq_none_iff.1 ht
        rw [has_eq, this]; rfl
      obtain ⟨h1, passed, h2, h3, h4⟩ := ih hs
      refine ⟨h1, i :: passed, by simp [reached, hn, h2], by simp [h3], fun j hj => ?_⟩
      rcases List.mem_cons.1 hj with rfl | hj
      · exact hn
      · exact h4 j hj

end FloatingPanels.Switchboard

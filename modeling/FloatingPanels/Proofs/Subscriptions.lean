import FloatingPanels.Proofs.Integrity
/-!
# Subscriptions

A handler is away while it is called, and several handlers of one line can be away at
the same time, when a handler replaces itself and broadcasts again. All the same each
line is a register: `run_subscriptions` says that, when no call is going on, its handler
is the one that was set last, unless it was unsubscribed or its window destroyed since.

The invariant is `Tally`. It pairs the calls noted in the switchboard with the handlers
on the stack of the machine, and says of every line that its current handler is either
there or away in the innermost call on it, not ended.
-/

namespace FloatingPanels

/-! ## The register -/

/-- What the next moment makes of the current handlers of all lines. -/
def Machine.heard (m m' : Machine) (current : Line → Option Handler) (l : Line) : Option Handler :=
  if m'.desktop.isLive l.id then
    match m.subscription? with
    | some (k, h) => if k = l then h else current l
    | none => current l
  else none

/-- The handler of a line by the requests of a run alone: that of the latest
subscription, if neither an end of it nor the destruction of the window came since. -/
def current : List Machine → Line → Option Handler := Run.trace Machine.heard fun _ => none

/-! ## Handlers that are away -/

/-- The handler that is to come back to a line: that of the innermost call on it, if its
subscription has not been ended. -/
def awaited (l : Line) : List (Call × Handler) → Option Handler
  | [] => none
  | (c, h) :: away => if c.line = l then (if c.ended then none else some h) else awaited l away

theorem awaited_of_ended {l : Line} {away : List (Call × Handler)} (h : ∀ a ∈ away, a.1.line = l → a.1.ended) :
    awaited l away = none := by
  induction away with
  | nil => rfl
  | cons a away ih =>
    rw [awaited, ih fun b hb => h b (List.mem_cons_of_mem a hb)]
    by_cases hl : a.1.line = l
    · rw [if_pos hl, if_pos (h a List.mem_cons_self hl)]
    · rw [if_neg hl]

/-- The calls after the subscription of a line was ended. -/
def endAll (l : Line) (a : Call × Handler) : Call × Handler :=
  (if Switchboard.active l a.1 then { a.1 with ended := true } else a.1, a.2)

theorem endAll_line (l : Line) (a : Call × Handler) : (endAll l a).1.line = a.1.line := by
  unfold endAll
  split <;> rfl

theorem endAll_ended (l : Line) (a : Call × Handler) : (endAll l a).1.ended = (decide (a.1.line = l) || a.1.ended) := by
  unfold endAll
  by_cases hl : a.1.line = l <;> by_cases he : a.1.ended <;> simp [Switchboard.active, hl, he]

theorem awaited_endAll (l k : Line) (away : List (Call × Handler)) :
    awaited k (away.map (endAll l)) = if l = k then none else awaited k away := by
  by_cases hk : l = k
  · rw [if_pos hk]
    refine awaited_of_ended fun b hb hbk => ?_
    obtain ⟨a, -, rfl⟩ := List.mem_map.1 hb
    rw [endAll_line] at hbk
    rw [endAll_ended, hbk, hk]
    simp
  · rw [if_neg hk]
    induction away with
    | nil => rfl
    | cons a away ih =>
      rw [List.map_cons, awaited, awaited, endAll_line, ih]
      by_cases hl : a.1.line = k
      · have : a.1.line ≠ l := fun h => hk (h.symm.trans hl)
        have he : (endAll l a).1.ended = a.1.ended := by rw [endAll_ended, decide_eq_false this, Bool.false_or]
        rw [if_pos hl, if_pos hl, he]
        rfl
      · rw [if_neg hl, if_neg hl]

/-- What holds between the register and what is away, the innermost call first. -/
structure Tally (m : Machine) (current : Line → Option Handler) (away : List (Call × Handler)) : Prop where
  noted : m.session.switchboard.calls = away.map Prod.fst
  going : m.calls = away.map fun a => (a.1.line, a.2)
  /-- When the subscription of a call has been ended, so have those of the calls around
  it. -/
  ended : away.Pairwise fun a b => a.1.line = b.1.line → a.1.ended → b.1.ended
  issued : ∀ a ∈ away, a.1.line.id.number ≤ m.desktop.issued
  dead : ∀ l, m.desktop.isLive l.id = false → current l = none
  kept : ∀ l, m.desktop.isLive l.id → current l = (m.session.switchboard.handler? l).or (awaited l away)

section

variable {d₀ : Desktop} {m m' : Machine} {ms : List Machine} {current : Line → Option Handler}
  {away : List (Call × Handler)}

/-! ## One step -/

/-- Handlers and calls stay, but those of windows that are gone. -/
theorem Tally.operate (ht : Tally m current away) (hd : m.desktop.Sound) {raised : Option WindowId}
    {added : Option (WindowId × String)} (he : m.desktop.Effect m'.desktop raised added)
    (hsub : ∀ l, m.session.switchboard.has l → m.desktop.isLive l.id) (hn : m.subscription? = none)
    (hs : m'.session = m.session.withDesktop m'.desktop) (hc : m'.calls = m.calls) :
    Tally m' (m.heard m' current) away := by
  have hissued : m.desktop.issued ≤ m'.desktop.issued := by
    rw [he.issued.1]
    exact Nat.le_add_right _ _
  refine ⟨?_, hc.trans ht.going, ht.ended, fun a ha => (ht.issued a ha).trans hissued, ?_, fun l hl => ?_⟩
  · rw [hs]
    exact ht.noted
  · intro l hl
    rw [Machine.heard, hl]
    rfl
  · rw [Machine.heard, if_pos hl, hn]
    rw [hs, Session.withDesktop, Switchboard.handler?_forget, if_neg]
    · by_cases hlive : m.desktop.isLive l.id
      · exact ht.kept l hlive
      · -- The window is new: nothing has been heard of its number.
        have hnew := ((he.live_before hd hl).resolve_left hlive)
        have hnone : m.session.switchboard.handler? l = none := by
          by_contra h
          exact hlive (hsub l (by rw [Switchboard.has_eq]; exact Option.isSome_iff_ne_none.2 h))
        have haway : awaited l away = none := by
          refine awaited_of_ended fun a ha hal => ?_
          have := ht.issued a ha
          rw [hal, hnew] at this
          exact absurd this (Nat.not_succ_le_self _)
        rw [hnone, haway, ht.dead l (by simpa using hlive)]
        rfl
    · intro hm
      have := (List.mem_filter.1 hm).2
      rw [hl] at this
      cases this

/-- The other steps leave the desktop as it is. -/
theorem tally_of_desktop (hd : m'.desktop = m.desktop) {away' : List (Call × Handler)}
    (hnoted : m'.session.switchboard.calls = away'.map Prod.fst)
    (hgoing : m'.calls = away'.map fun a => (a.1.line, a.2))
    (hended : away'.Pairwise fun a b => a.1.line = b.1.line → a.1.ended → b.1.ended)
    (hissued : ∀ a ∈ away', a.1.line.id.number ≤ m.desktop.issued)
    (hkept : ∀ l, m.desktop.isLive l.id →
      m.heard m' current l = (m'.session.switchboard.handler? l).or (awaited l away')) :
    Tally m' (m.heard m' current) away' := by
  refine ⟨hnoted, hgoing, hended, hd ▸ hissued, fun l hl => ?_, fun l hl => hkept l (hd ▸ hl)⟩
  rw [Machine.heard, hl]
  rfl

theorem heard_of_live (hd : m'.desktop = m.desktop) {l : Line} (hl : m.desktop.isLive l.id) :
    m.heard m' current l = match m.subscription? with
      | some (k, h) => if k = l then h else current l
      | none => current l := by
  rw [Machine.heard, hd, if_pos hl]

theorem Tally.subscribe (ht : Tally m current away) {k : Line} {h : Handler}
    (hn : m.subscription? = some (k, some h)) (hd : m'.desktop = m.desktop)
    (hs : m'.session.switchboard = m.session.switchboard.subscribe k h) (hc : m'.calls = m.calls) :
    Tally m' (m.heard m' current) away := by
  refine tally_of_desktop hd ?_ (hc.trans ht.going) ht.ended ht.issued fun l hl => ?_
  · rw [hs]
    exact ht.noted
  · rw [heard_of_live hd hl, hn, hs, Switchboard.handler?_subscribe]
    by_cases hk : k = l
    · simp [hk]
    · simp only [if_neg hk]
      exact ht.kept l hl

theorem Tally.unsubscribe (ht : Tally m current away) {k : Line} (hn : m.subscription? = some (k, none))
    (hd : m'.desktop = m.desktop) (hs : m'.session.switchboard = (m.session.switchboard.unsubscribe k).1)
    (hc : m'.calls = m.calls) : Tally m' (m.heard m' current) (away.map (endAll k)) := by
  refine tally_of_desktop hd ?_ ?_ ?_ ?_ fun l hl => ?_
  · rw [hs, Switchboard.unsubscribe, ht.noted, List.map_map, List.map_map]
    rfl
  · rw [hc, ht.going, List.map_map]
    refine List.map_congr_left fun a _ => ?_
    rw [Function.comp_apply, endAll_line]
    rfl
  · -- All calls on the line are ended at once.
    refine List.pairwise_map.2 (ht.ended.imp fun {a b} hab hline hended => ?_)
    rw [endAll_line, endAll_line] at hline
    rw [endAll_ended, Bool.or_eq_true, decide_eq_true_iff] at hended ⊢
    rcases hended with hk | hended
    · exact .inl (hline ▸ hk)
    · exact .inr (hab hline hended)
  · intro b hb
    obtain ⟨a, ha, rfl⟩ := List.mem_map.1 hb
    rw [endAll_line]
    exact ht.issued a ha
  · -- Neither what is there nor what is away on the line counts any longer.
    rw [heard_of_live hd hl, hn, hs, Switchboard.handler?_unsubscribe, awaited_endAll]
    by_cases hk : k = l
    · simp [hk]
    · simp only [if_neg hk]
      exact ht.kept l hl

theorem Tally.take (ht : Tally m current away) (hsub : ∀ l, m.session.switchboard.has l → m.desktop.isLive l.id)
    (hbound : ∀ id, m.desktop.isLive id → id.number ≤ m.desktop.issued) {k : Line} {h : Handler}
    (hn : m.subscription? = none) (hd : m'.desktop = m.desktop)
    (hs : m.session.switchboard.take? k = some (h, m'.session.switchboard)) (hc : m'.calls = (k, h) :: m.calls) :
    Tally m' (m.heard m' current) (({ line := k }, h) :: away) := by
  obtain ⟨hh, hcalls, hrest⟩ := Switchboard.take?_eq_some hs
  refine tally_of_desktop hd ?_ ?_ ?_ ?_ fun l hl => ?_
  · rw [hcalls, ht.noted]
    rfl
  · rw [hc, ht.going]
    rfl
  · exact List.pairwise_cons.2 ⟨fun b _ _ => nofun, ht.ended⟩
  · intro a ha
    rcases List.mem_cons.1 ha with rfl | ha
    · exact hbound _ (hsub k (by rw [Switchboard.has_eq, hh]; rfl))
    · exact ht.issued a ha
  · -- What was there for the line is now away in the innermost call on it.
    rw [heard_of_live hd hl, hn, hrest]
    have hkept := ht.kept l hl
    by_cases hk : k = l
    · subst hk
      rw [hh] at hkept
      simpa [awaited] using hkept
    · rw [if_neg hk]
      simpa [awaited, hk] using hkept

theorem Tally.restore (ht : Tally m current away) {k : Line} {h : Handler} (hn : m.subscription? = none)
    (hd : m'.desktop = m.desktop) (hs : m'.session.switchboard = m.session.switchboard.restore m.desktop k h)
    (hc : m.calls = (k, h) :: m'.calls) : ∃ away', Tally m' (m.heard m' current) away' := by
  have hgoing := ht.going
  rw [hc] at hgoing
  obtain ⟨a, away', rfl, ha, hgoing'⟩ := List.map_eq_cons_iff.1 hgoing.symm
  obtain ⟨hline, hah⟩ := Prod.mk.inj ha
  have hnoted := ht.noted
  rw [List.map_cons] at hnoted
  obtain ⟨hcalls, hback⟩ := @Switchboard.restore_of_head m.session.switchboard m.desktop k h _ _ hnoted hline
  obtain ⟨hended, hended'⟩ := List.pairwise_cons.1 ht.ended
  refine ⟨away', tally_of_desktop hd (hs ▸ hcalls) hgoing'.symm hended'
    (fun b hb => ht.issued b (List.mem_cons_of_mem a hb)) fun l hl => ?_⟩
  have hkept := ht.kept l hl
  rw [heard_of_live hd hl, hn, hs, hback]
  by_cases hk : k = l
  · subst hk
    by_cases hhas : m.session.switchboard.has k
    · -- A replacement stays.
      rw [if_neg (by simp [hhas])]
      rw [Switchboard.has_eq] at hhas
      obtain ⟨x, hx⟩ := Option.isSome_iff_exists.1 hhas
      rw [hx] at hkept ⊢
      exact hkept
    · have hnone : m.session.switchboard.handler? k = none := by
        rw [Switchboard.has_eq] at hhas
        exact Option.not_isSome_iff_eq_none.1 hhas
      cases he : a.1.ended with
      | false =>
        rw [if_pos ⟨rfl, rfl, hl, by simpa using hhas⟩]
        rw [hnone, awaited, if_pos hline, he] at hkept
        simpa [hah] using hkept
      | true =>
        -- The calls around this one have been ended with it.
        have : awaited k away' = none := by
          refine awaited_of_ended fun b hb hbk => hended b hb (hline.trans hbk.symm) he
        rw [if_neg (by simp), hnone, this]
        rw [hnone, awaited, if_pos hline, he] at hkept
        exact hkept
  · rw [if_neg (by simp [hk])]
    rw [awaited, if_neg (by rw [hline]; exact hk)] at hkept
    exact hkept

/-! ## Whole runs -/

theorem Tally.next (ht : Tally m current away) (hd : m.desktop.Sound) (hstop : m.isStopped → m.stack = [])
    (hsub : ∀ l, m.session.switchboard.has l → m.desktop.isLive l.id) (hn : m.Next m') :
    ∃ away', Tally m' (m.heard m' current) away' := by
  have hbound : ∀ id, m.desktop.isLive id → id.number ≤ m.desktop.issued := by
    intro id hl
    obtain ⟨e, he, rfl⟩ := Desktop.isLive_iff.1 hl
    exact hd.issued e he
  cases Machine.next_session hn hstop with
  | operate hn' hs hc => exact ⟨away, ht.operate hd (Machine.next_desktop hn hd) hsub hn' hs hc⟩
  | subscribe k h hn' _ hd' hs hc => exact ⟨away, ht.subscribe hn' hd' hs hc⟩
  | unsubscribe k hn' hd' hs hc => exact ⟨_, ht.unsubscribe hn' hd' hs hc⟩
  | take k h hn' hd' hs hc => exact ⟨_, ht.take hsub hbound hn' hd' hs hc⟩
  | restore k h hn' hd' hs hc => exact ht.restore hn' hd' hs hc

end

section

variable {d₀ : Desktop} {m : Machine} {ms : List Machine}

theorem run_tally (h₀ : d₀.IsNew) (h : Run d₀ (m :: ms)) : ∃ away, Tally m (current (m :: ms)) away := by
  have hinv := h.trace_inv (f := Machine.heard) (b := fun _ => none)
    (P := fun m current => m.desktop.Sound ∧ (m.isStopped → m.stack = []) ∧
      (∀ l, m.session.switchboard.has l → m.desktop.isLive l.id) ∧ ∃ away, Tally m current away)
    (fun p => ⟨h₀.sound, fun _ => rfl, nofun, [], rfl, rfl, .nil, nofun, fun _ _ => rfl, fun _ _ => rfl⟩) ?_
  · exact hinv.2.2.2
  · rintro m m' current hn ⟨hd, hstop, hsub, away, ht⟩
    exact ⟨(Machine.next_desktop hn hd).sound hd, Machine.next_stopped hn hstop,
      subscribed_next (Machine.next_session hn hstop) hsub, ht.next hd hstop hsub hn⟩

/-- While no call is going on, none is noted and every line of a live window has its
current handler, however calls were nested before. -/
theorem run_subscriptions (h₀ : d₀.IsNew) (h : Run d₀ (m :: ms)) (hidle : m.calls = []) :
    m.session.switchboard.calls = [] ∧
      ∀ l, m.desktop.isLive l.id → m.session.switchboard.handler? l = current (m :: ms) l := by
  obtain ⟨away, ht⟩ := run_tally h₀ h
  have haway : away = [] := List.map_eq_nil_iff.1 (ht.going.symm.trans hidle)
  subst haway
  refine ⟨ht.noted, fun l hl => ?_⟩
  rw [ht.kept l hl]
  exact (Option.or_none).symm

end

/-- A handler that replaces itself and broadcasts again; the replacement ends the
subscription while both are away. -/
def unsubscribeBoth : Program :=
  let last : Handler := fun _ _ => .unsubscribe ⟨1⟩ "tag" fun _ => .accept
  let first : Handler := fun _ _ => .subscribe ⟨1⟩ "tag" last fun _ => .broadcast "tag" .null .null fun _ => .accept
  .create [.passive { kind := "note" }] fun _ =>
    .subscribe ⟨1⟩ "tag" first fun _ => .broadcast "tag" .null .null fun _ => .accept

theorem run_subscriptions_unsubscribeBoth :
    let m := Machine.step^[30] (.start { desktop := .plain } unsubscribeBoth)
    m.calls = [] ∧ m.desktop.isLive ⟨1⟩ ∧ m.session.switchboard.calls = [] ∧
      m.session.switchboard.handler? ⟨⟨1⟩, "tag"⟩ =
        current (Machine.moments (.start { desktop := .plain } unsubscribeBoth) 30) ⟨⟨1⟩, "tag"⟩ := by
  intro m
  have hidle : m.calls = [] := List.isEmpty_iff.1 (by decide +kernel)
  have hl : m.desktop.isLive ⟨1⟩ := by decide +kernel
  have h := run_subscriptions Desktop.isNew_plain (Run.moments unsubscribeBoth 30) hidle
  exact ⟨hidle, hl, h.1, h.2 ⟨⟨1⟩, "tag"⟩ hl⟩

end FloatingPanels

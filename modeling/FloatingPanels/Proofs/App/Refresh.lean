import FloatingPanels.Proofs.App.Openings
/-!
# Refreshing panels

A refresh calls the handlers of all panels of applications, one after the other. Each of
them writes the number of the refresh into its own window and is back in its place before
the next one is called (`within_call`), so a refresh reaches all of them (`refresh_writes`)
and the next one will, too.
-/

namespace FloatingPanels

open Machine

variable {d : Desktop} {sw : Switchboard} {id : WindowId} {handler : Handler}

/-- A handler that does one thing leaves the handlers and the calls as they were. -/
theorem Machine.within_call {D : Delivery} {action : Action} (hh : sw.handler? ⟨id, D.tag⟩ = some handler)
    (hp : handler D.payload D.extra = .then_ action .accept) (hsub : ∀ l, sw.has l → (d.perform action).1.isLive l.id)
    (targets : List WindowId) (stack : List Waiting) :
    ∃ sw', Within 3 ⟨⟨d, sw⟩, .deliver { D with targets := id :: targets }, stack⟩
        ⟨⟨(d.perform action).1, sw'⟩, .deliver { D with targets, count := D.count + 1 }, stack⟩ ∧
      sw'.calls = sw.calls ∧ ∀ k, sw'.handler? k = sw.handler? k := by
  obtain ⟨away, htake⟩ : ∃ away, sw.take? ⟨id, D.tag⟩ = some (handler, away) :=
    ⟨_, congrArg (Option.map _) hh⟩
  obtain ⟨-, hcalls, hhandlers⟩ := Switchboard.take?_eq_some htake
  have hsub' : ∀ l, away.has l → (d.perform action).1.isLive l.id := by
    intro l hl
    refine hsub l ?_
    rw [Switchboard.has_eq, hhandlers] at hl
    split at hl
    · cases hl
    · exact (sw.has_eq l).trans hl
  have hcall : step ⟨⟨d, sw⟩, .deliver { D with targets := id :: targets }, stack⟩ =
      ⟨⟨d, away⟩, .run (.then_ action .accept), .call ⟨id, D.tag⟩ handler { D with targets } :: stack⟩ := by
    simp only [step, deliver, Switchboard.nextTarget, htake, hp]
    rfl
  have hact :
      step ⟨⟨d, away⟩, .run (.act action fun _ => .accept), .call ⟨id, D.tag⟩ handler { D with targets } :: stack⟩ =
      ⟨⟨(d.perform action).1, away⟩, .run .accept, .call ⟨id, D.tag⟩ handler { D with targets } :: stack⟩ :=
    step_act hsub' _
  obtain ⟨hback, hrestored⟩ := Switchboard.restore_of_head (d := (d.perform action).1) (h := handler) hcalls rfl
  refine ⟨away.restore (d.perform action).1 ⟨id, D.tag⟩ handler, ⟨3, Nat.le_refl 3, ?_⟩, hback, fun k => ?_⟩
  · rw [Function.iterate_succ_apply, Function.iterate_succ_apply, Function.iterate_one, hcall, Program.then_, hact]
    rfl
  · rw [hrestored, hhandlers]
    by_cases hk : (⟨id, D.tag⟩ : Line) = k
    · subst hk
      have haway : away.has ⟨id, D.tag⟩ = false := by rw [Switchboard.has_eq, hhandlers, if_pos rfl]; rfl
      have hlive := hsub ⟨id, D.tag⟩ (by rw [Switchboard.has_eq, hh]; rfl)
      rw [if_pos ⟨rfl, rfl, hlive, haway⟩, hh]
    · rw [if_neg fun h => hk h.1, if_neg hk]

/-! ## What is written -/

/-- What a panel of applications shows after a refresh. -/
def Panel.countText (round : Nat) : String := s!"all: refresh #{round}"

/-- A text is written into these windows of applications, and that is all. -/
structure Session.Writes (s s' : Session) (text : String) (ids : List WindowId) : Prop where
  windows : ∀ w' ∈ s'.desktop.windows, ∃ w ∈ s.desktop.windows, w' = { w with frame := w'.frame } ∧
    (w'.frame = w.frame ∧ w.id ∉ ids ∨ w.kind = Panel.apps.kind ∧ w'.frame.Holds (Panel.counting text))
  live : ∀ i, s'.desktop.isLive i = s.desktop.isLive i
  rest : s'.desktop = { s.desktop with windows := s'.desktop.windows }
  calls : s'.switchboard.calls = s.switchboard.calls
  handlers : ∀ l, s'.switchboard.handler? l = s.switchboard.handler? l

namespace Session

variable {s s₁ s' : Session} {text : String} {ids ids' : List WindowId}

theorem Writes.refl (s : Session) (text : String) : s.Writes s text [] :=
  ⟨fun w hw => ⟨w, hw, rfl, .inl ⟨rfl, List.not_mem_nil⟩⟩, fun _ => rfl, rfl, rfl, fun _ => rfl⟩

theorem Writes.trans (h : s.Writes s₁ text ids) (h' : s₁.Writes s' text ids') : s.Writes s' text (ids ++ ids') := by
  refine ⟨fun w' hw' => ?_, fun i => (h'.live i).trans (h.live i), by rw [h'.rest, h.rest], h'.calls.trans h.calls,
    fun l => (h'.handlers l).trans (h.handlers l)⟩
  obtain ⟨w₁, hw₁, he', hc'⟩ := h'.windows w' hw'
  obtain ⟨w, hw, he, hc⟩ := h.windows w₁ hw₁
  have hid : w₁.id = w.id := by rw [he]
  have hkind : w₁.kind = w.kind := by rw [he]
  refine ⟨w, hw, by rw [he', he], ?_⟩
  rcases hc' with ⟨hf', hn'⟩ | ⟨hk', hf'⟩
  · rw [hf']
    exact hc.imp_left fun ⟨hf, hn⟩ => ⟨hf, List.not_mem_append hn (hid ▸ hn')⟩
  · exact .inr ⟨hkind ▸ hk', hf'⟩

theorem Writes.furnished (h : s.Writes s' text ids) (hf : s.Furnished) : s'.Furnished := by
  have hrest := h.rest
  refine ⟨?_, ?_, ?_, h.calls.trans hf.calls, fun w' hw' => ?_⟩
  · rw [hrest]
    exact hf.chrome
  · rw [hrest]
    exact hf.container
  · rw [hrest]
    exact hf.library
  obtain ⟨w, hw, he, hc⟩ := h.windows w' hw'
  obtain ⟨p, hp⟩ := hf.windows w hw
  have hid : w'.id = w.id := by rw [he]
  refine ⟨p, by rw [he]; exact hp.kind, by rw [he]; exact hp.address, fun address ha => ?_, fun happs => ?_, ?_⟩
  · rw [hid, Desktop.byAddress, hrest]
    exact hp.named address ha
  · rcases hc with ⟨hf', -⟩ | ⟨-, hf'⟩
    · rw [hf']
      exact hp.content happs
    · exact ⟨text, hf'⟩
  · rw [h.handlers, hid]
    exact hp.handler

/-- Only panels of applications have handlers for refreshes, and all of them have this one. -/
theorem Furnished.apps_of_handler (hf : s.Furnished) {w : Window} (hw : w ∈ s.desktop.windows)
    (hh : s.switchboard.handler? ⟨w.id, Panel.refreshTag⟩ = some handler) :
    Panel.apps.IsAt s w ∧ handler = Panel.counter "all" w.id := by
  obtain ⟨p, hp⟩ := hf.windows w hw
  have := hp.handler
  rw [hh] at this
  cases p with
  | apps => exact ⟨hp, Option.some.inj this⟩
  | _ => cases this

/-- The handler of a window writes into that window. -/
theorem Furnished.writes (hf : s.Furnished) (hl : s.desktop.isLive id)
    (hh : s.switchboard.handler? ⟨id, Panel.refreshTag⟩ = some handler) (hcalls : sw.calls = s.switchboard.calls)
    (hsw : ∀ l, sw.handler? l = s.switchboard.handler? l) (text : String) :
    s.Writes ⟨(s.desktop.perform (.setContentText id "count" text)).1, sw⟩ text [id] := by
  obtain ⟨w, hw⟩ := Desktop.exists_window hl
  obtain ⟨hm, rfl⟩ := Desktop.mem_of_window? hw
  obtain ⟨before, hbefore⟩ := (hf.apps_of_handler hm hh).1.content rfl
  have hline : Element.changeClass? ⟨"div", [("class", Frame.contentClass)], .ofElement (Panel.counting before)⟩ "count"
      (·.setText text) = some ⟨"div", [("class", Frame.contentClass)], .ofElement (Panel.counting text)⟩ := rfl
  obtain ⟨frame, hframe, hholds⟩ := hbefore.setContentText? hline
  have hset : (s.desktop.perform (.setContentText w.id "count" text)).1 =
      s.desktop.change w.id fun v => { v with frame } := by
    show (s.desktop.setContentText w.id "count" text).1 = _
    simp only [Desktop.setContentText, hw, Option.bind_some, hframe]
  rw [hset]
  refine ⟨fun v' hv' => ?_, fun i => ?_, rfl, hcalls, hsw⟩
  · obtain ⟨v, hv, rfl⟩ := List.mem_map.1 hv'
    refine ⟨v, hv, ?_⟩
    by_cases hvw : v.id = w.id
    · rw [if_pos hvw]
      exact ⟨rfl, .inr ⟨(hf.apps_of_handler hv (hvw.symm ▸ hh)).1.kind, hholds⟩⟩
    · rw [if_neg hvw]
      exact ⟨rfl, .inl ⟨rfl, by simpa using hvw⟩⟩
  · have halike := Desktop.alike_setContentText s.desktop w.id "count" text
    rw [show (s.desktop.setContentText w.id "count" text).1 = _ from hset] at halike
    rw [Bool.eq_iff_iff, Desktop.isLive_iff, Desktop.isLive_iff, halike.entries]

end Session

/-! ## The broadcast -/

/-- A broadcast of a refresh comes to all of its targets. -/
theorem within_refresh {s : Session} (hf : s.Furnished) (hsub : ∀ l, s.switchboard.has l → s.desktop.isLive l.id)
    (round count : Nat) (next : Nat → Program) {targets : List WindowId}
    (ht : ∀ i ∈ targets, s.switchboard.has ⟨i, Panel.refreshTag⟩) :
    ∃ s' called, Within (3 * targets.length + 1)
        ⟨s, .deliver ⟨Panel.refreshTag, Panel.refreshPayload round, .null, targets, count, next⟩, []⟩
        ⟨s', .run (next called), []⟩ ∧ s.Writes s' (Panel.countText round) targets := by
  induction targets generalizing s count with
  | nil => exact ⟨s, count, within_step _, .refl s _⟩
  | cons i rest ih =>
    rw [List.forall_mem_cons] at ht
    have hlive := hsub _ ht.1
    obtain ⟨handler, hh⟩ := Option.isSome_iff_exists.1 ((s.switchboard.has_eq _).symm.trans ht.1)
    obtain ⟨w, hw⟩ := Desktop.exists_window hlive
    obtain ⟨hm, rfl⟩ := Desktop.mem_of_window? hw
    obtain ⟨-, rfl⟩ := hf.apps_of_handler hm hh
    have hkept : ∀ l, s.switchboard.has l →
        (s.desktop.perform (.setContentText w.id "count" (Panel.countText round))).1.isLive l.id := fun l hl =>
      ((hf.writes hlive hh rfl (fun _ => rfl) _ : s.Writes ⟨_, s.switchboard⟩ _ _).live l.id).trans (hsub l hl)
    obtain ⟨sw', hwithin, hcalls, hhandlers⟩ := within_call
      (D := ⟨Panel.refreshTag, Panel.refreshPayload round, .null, w.id :: rest, count, next⟩) hh
      (Panel.counter_refreshPayload "all" w.id round .null) hkept rest []
    have hwrites := hf.writes hlive hh hcalls hhandlers (Panel.countText round)
    have hhas : ∀ l, sw'.has l = s.switchboard.has l := fun l => by
      rw [Switchboard.has_eq, Switchboard.has_eq, hhandlers]
    obtain ⟨s', called, hrest, hwrites'⟩ := ih (hwrites.furnished hf)
      (fun l hl => (hwrites.live l.id).trans (hsub l ((hhas l).symm.trans hl))) (count + 1)
      fun i hi => (hhas _).trans (ht.2 i hi)
    exact ⟨s', called, (hwithin.trans hrest).mono (by rw [List.length_cons]; omega), hwrites.trans hwrites'⟩

namespace App

variable {a a' : App} {e : Event}

/-- A refresh writes its number into all windows of applications. -/
theorem refresh_writes (hf : a.session.Furnished) (hsub : ∀ l, a.session.switchboard.has l → a.desktop.isLive l.id) :
    ∃ ids, a.session.Writes a.refresh.session (Panel.countText (a.refreshes + 1)) ids ∧
      ∀ w ∈ a.desktop.windows, w.kind = Panel.apps.kind → w.id ∈ ids := by
  have htargets : ∀ i, i ∈ a.session.switchboard.subscribers a.desktop Panel.refreshTag ↔
      i ∈ a.desktop.ids ∧ a.session.switchboard.has ⟨i, Panel.refreshTag⟩ := fun i => List.mem_filter
  have hlength : (a.session.switchboard.subscribers a.desktop Panel.refreshTag).length ≤ a.desktop.windows.length := by
    rw [← List.length_map Window.id]
    exact List.length_filter_le _ a.desktop.ids
  obtain ⟨s', called, hwithin, hwrites⟩ := within_refresh hf hsub (a.refreshes + 1) 0 (fun _ => .accept)
    fun i hi => ((htargets i).1 hi).2
  have hend := ((within_step (.start a.session (.broadcast Panel.refreshTag (Panel.refreshPayload (a.refreshes + 1))
    .null fun _ => .accept))).trans hwithin).trans (within_step ⟨s', .run .accept, []⟩)
  refine ⟨_, ?_, fun w hw hk => (htargets w.id).2 ⟨List.mem_map_of_mem hw, ?_⟩⟩
  · rw [refresh, run_of_within (a := { a with refreshes := a.refreshes + 1 }) hend rfl]
    · exact hwrites
    · show _ ≤ 4 * a.desktop.windows.length + 16
      omega
  · obtain ⟨p, hp⟩ := hf.windows w hw
    obtain rfl := Panel.kind_injective (hk.symm.trans hp.kind)
    rw [Switchboard.has_eq, hp.handler]
    rfl

/-! ## Every event -/

theorem furnished_performs {d₀ : Desktop} (h₀ : d₀.IsNew) (hr : a.session.Reached d₀) (hf : a.session.Furnished)
    {actions : List Action} (ha : ∀ x ∈ actions, x.arranges) : (actions.foldl perform a).session.Furnished := by
  have hinv := List.foldlRecOn actions perform (motive := fun b => b.session.Reached d₀ ∧ b.session.Furnished) ⟨hr, hf⟩
    fun b hb action hm => ⟨hb.1.perform action, hb.2.perform (hb.1.sound h₀) (ha action hm)⟩
  exact hinv.2

theorem Handled.furnished {d₀ : Desktop} (h₀ : d₀.IsNew) (hr : a.session.Reached d₀) (hh : Handled a e a')
    (hf : a.session.Furnished) : a'.session.Furnished := by
  have hs := hr.sound h₀
  cases hh with
  | arranged router actions ha => exact furnished_performs (a := { a with router }) h₀ hr hf ha
  | opened p =>
    rcases openPanel_cases hf hs (fun _ => hr.subscribed) p with ⟨hn, w, hw⟩ | ⟨rfl, i, -, -, hy⟩
    · exact hw.furnished hf hs (fun _ => hr.subscribed) hn
    · exact hy.furnished hf
  | refreshed =>
    obtain ⟨ids, hw, -⟩ := refresh_writes hf fun _ => hr.subscribed
    exact hw.furnished hf

/-- After all events every window is a panel with all that belongs to it. -/
theorem furnished_after (l : CommandLine) (columns rows : Nat) (events : List (Nat × Event)) :
    ((start l columns rows).after events).session.Furnished :=
  after_inv (furnished_start l columns rows) (fun hr hh hf => hh.furnished (isNew_start l columns rows) hr hf) events

end App

end FloatingPanels

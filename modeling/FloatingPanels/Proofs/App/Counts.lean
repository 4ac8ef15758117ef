import FloatingPanels.Proofs.App.Refresh
import FloatingPanels.Proofs.Markup.Words
/-!
# Counts of refreshes

A panel of applications shows the number of the last refresh, or that there was none since
it was opened. An event keeps what such a window shows, or is a refresh and writes its
number, or opens the window (`AppsStep`); `counts_shown` follows by induction on the events.
-/

namespace FloatingPanels

/-! ## What is shown -/

/-- The line for the count and the line below it are shown as they are. -/
theorem Frame.Holds.contentLines {f : Frame} {text : String} (h : f.Holds (Panel.counting text))
    {ws : List (List Char)} (hs : text.toList = unwords ws) (hw : ∀ w ∈ ws, IsWord w) (hne : ws ≠ []) :
    f.contentLines = [text, "press r to refresh"] := by
  have hbelow : ("press r to refresh" : String).toList =
      unwords ["press".toList, "r".toList, "to".toList, "refresh".toList] := rfl
  have hrows : Element.rows ⟨"div", [("class", contentClass)], .ofElement (Panel.counting text)⟩ =
      [ws, ["press".toList, "r".toList, "to".toList, "refresh".toList]] := by
    rw [Panel.counting, Element.rows, Nodes.ofElement, Nodes.flow_block rfl rfl,
      Nodes.flow_paragraph hs hw hne rfl, Nodes.flow_paragraph hbelow (by decide) (by decide) rfl]
    rfl
  rw [Frame.contentLines, h.content, Option.map_some, Option.getD_some, Element.textLines, hrows, List.map_cons, ← hs,
    String.ofList_toList]
  rfl

namespace App

variable {a a' : App} {e : Event} {l : CommandLine} {columns rows : Nat} {events later : List (Nat × Event)}

/-- What a panel says of refreshes after all events, of which the later ones came since it
was opened. -/
def countLine (events later : List (Nat × Event)) : String :=
  if later.any (·.2.isRefresh) then Panel.countText (events.countP (·.2.isRefresh)) else "no refresh yet"

theorem countLine_keep {x : Nat × Event} (hx : x.2.isRefresh = false) (events later : List (Nat × Event)) :
    countLine (events ++ [x]) (later ++ [x]) = countLine events later := by
  have hany : (later ++ [x]).any (·.2.isRefresh) = later.any (·.2.isRefresh) := by rw [List.any_append]; simp [hx]
  have hcount : (events ++ [x]).countP (·.2.isRefresh) = events.countP (·.2.isRefresh) := by simp [hx]
  rw [countLine, countLine, hany, hcount]

theorem countLine_refresh {x : Nat × Event} (hx : x.2.isRefresh) (events later : List (Nat × Event)) :
    countLine (events ++ [x]) (later ++ [x]) = Panel.countText (events.countP (·.2.isRefresh) + 1) := by
  simp [countLine, hx]

/-- It is made of words. -/
theorem countLine_words (events later : List (Nat × Event)) :
    ∃ ws, (countLine events later).toList = unwords ws ∧ (∀ w ∈ ws, IsWord w) ∧ ws ≠ [] := by
  unfold countLine
  split
  · refine ⟨["all:".toList, "refresh".toList, '#' :: (events.countP (·.2.isRefresh)).repr.toList], ?_, ?_,
      List.cons_ne_nil _ _⟩
    · show ("all: refresh #" ++ (events.countP (·.2.isRefresh)).repr).toList = _
      rw [String.toList_append]
      rfl
    · simp only [List.forall_mem_cons]
      exact ⟨by decide, by decide, isWord_numeral (by decide) _, List.forall_mem_nil _⟩
  · exact ⟨["no".toList, "refresh".toList, "yet".toList], rfl, by decide, List.cons_ne_nil _ _⟩

/-! ## Numbers of windows and of refreshes -/

theorem issued_run {d₀ : Desktop} (h₀ : d₀.IsNew) (hr : a.session.Reached d₀) (p : Program) :
    a.desktop.issued ≤ (a.run p).desktop.issued := by
  rcases a.run_cases p with h | h
  · rw [desktop, desktop, h]
  · exact hr.issued_le h₀ h

theorem issued_performs {d₀ : Desktop} (h₀ : d₀.IsNew) (hr : a.session.Reached d₀) (actions : List Action) :
    a.desktop.issued ≤ (actions.foldl perform a).desktop.issued := by
  have hinv := List.foldlRecOn actions perform
    (motive := fun b => b.session.Reached d₀ ∧ a.desktop.issued ≤ b.desktop.issued) ⟨hr, Nat.le_refl _⟩
    fun b hb action _ => ⟨hb.1.perform action, hb.2.trans (hb.1.issued_le h₀ (b.session.run?_act action))⟩
  exact hinv.2

theorem Handled.issued {d₀ : Desktop} (h₀ : d₀.IsNew) (hr : a.session.Reached d₀) (hh : Handled a e a') :
    a.desktop.issued ≤ a'.desktop.issued := by
  cases hh with
  | arranged router actions => exact issued_performs (a := { a with router }) h₀ hr actions
  | opened p => exact issued_run h₀ hr _
  | refreshed => exact issued_run (a := { a with refreshes := a.refreshes + 1 }) h₀ hr _

/-- No event takes numbers back. -/
theorem issued_after (l : CommandLine) (columns rows : Nat) (events later : List (Nat × Event)) :
    ((start l columns rows).after events).desktop.issued ≤
      ((start l columns rows).after (events ++ later)).desktop.issued := by
  induction later using List.reverseRecOn with
  | nil => rw [List.append_nil]
  | append_singleton later x ih =>
    rw [← List.append_assoc, after_append]
    exact ih.trans ((handled _ x.1 x.2).issued (isNew_start l columns rows) (reached_after l columns rows _))

theorem refreshes_performs (a : App) (actions : List Action) : (actions.foldl perform a).refreshes = a.refreshes :=
  List.foldlRecOn actions perform (motive := fun b => b.refreshes = a.refreshes) rfl fun b hb action _ =>
    (show (b.perform action).refreshes = b.refreshes from rfl).trans hb

theorem refreshes_after (l : CommandLine) (columns rows : Nat) (events : List (Nat × Event)) :
    ((start l columns rows).after events).refreshes = events.countP (·.2.isRefresh) := by
  induction events using List.reverseRecOn with
  | nil => rfl
  | append_singleton events x ih =>
    rw [after_append, List.countP_append, ← ih]
    have hh := handled ((start l columns rows).after events) x.1 x.2
    show (handle _ x.1 x.2).1.refreshes = _
    generalize (handle ((start l columns rows).after events) x.1 x.2).1 = a' at hh ⊢
    cases hh with
    | arranged router actions _ _ hr => simp [refreshes_performs, hr]
    | opened p _ hr => simp [openPanel, run, hr]
    | refreshed _ hr => simp [refresh, run, hr]

/-! ## One event -/

/-- What an event makes of a window of applications. -/
inductive AppsStep (a : App) (e : Event) (w' : Window) : Prop
  | kept {w : Window} (hr : e.isRefresh = false) (hw : w ∈ a.desktop.windows) (h : w.Rearranged w')
  | written (hr : e.isRefresh) (hl : a.desktop.isLive w'.id)
      (h : w'.frame.Holds (Panel.counting (Panel.countText (a.refreshes + 1))))
  | opened (hid : w'.id = ⟨a.desktop.issued + 1⟩) (h : w'.frame.Holds (Panel.counting "no refresh yet"))

theorem rearranges_performs (a : App) {actions : List Action} (ha : ∀ x ∈ actions, x.arranges) :
    a.desktop.Rearranges (actions.foldl perform a).desktop :=
  List.foldlRecOn actions perform (motive := fun b => a.desktop.Rearranges b.desktop) (.refl _)
    fun b hb action hm => hb.trans (b.desktop.perform_rearranges (ha action hm))

theorem Handled.apps {d₀ : Desktop} (h₀ : d₀.IsNew) (hr : a.session.Reached d₀) (hf : a.session.Furnished)
    (hh : Handled a e a') {w' : Window} (hw' : w' ∈ a'.desktop.windows) (hk : w'.kind = Panel.apps.kind) :
    AppsStep a e w' := by
  have hs := hr.sound h₀
  cases hh with
  | arranged router actions ha _ hre =>
    obtain ⟨w, hw, h⟩ := (rearranges_performs { a with router } ha).windows w' hw'
    exact .kept hre hw h
  | opened p _ hre =>
    rcases openPanel_cases hf hs (fun _ => hr.subscribed) p with ⟨-, v, hv⟩ | ⟨rfl, i, -, -, hy⟩
    · rw [desktop, hv.grows.windows, List.mem_append, List.mem_singleton] at hw'
      rcases hw' with hw' | rfl
      · exact .kept hre hw' (.refl w')
      · obtain rfl := Panel.kind_injective (hk.symm.trans hv.grows.kind)
        exact .opened hv.grows.id (hv.grows.content.resolve_right fun hne => hne rfl)
    · obtain ⟨w, hw, h⟩ := hy.windows w' hw'
      exact .kept hre hw h
  | refreshed _ hre =>
    obtain ⟨ids, hwrites, hall⟩ := refresh_writes hf fun _ => hr.subscribed
    obtain ⟨w, hw, he, hc⟩ := hwrites.windows w' hw'
    have hid : w'.id = w.id := by rw [he]
    refine .written hre (hid ▸ Desktop.isLive_of_mem hw) ?_
    rcases hc with ⟨-, hn⟩ | ⟨-, hholds⟩
    · exact absurd (hall w hw (by rw [he] at hk; exact hk)) hn
    · exact hholds

/-! ## All events -/

/-- An event, after those before it, opens a window. -/
structure Opening (a : App) (before : List (Nat × Event)) (e : Nat × Event) (id : WindowId) : Prop where
  absent : (a.after before).desktop.isLive id = false
  live : (a.after (before ++ [e])).desktop.isLive id

/-- What is live and was not there at first was opened by one of the events. -/
theorem exists_opening {id : WindowId} (h : a.desktop.isLive id = false) (hl : (a.after events).desktop.isLive id) :
    ∃ before e later, events = before ++ e :: later ∧ a.Opening before e id := by
  induction events using List.reverseRecOn with
  | nil => exact absurd (h.symm.trans hl) Bool.false_ne_true
  | append_singleton events x ih =>
    cases hx : (a.after events).desktop.isLive id with
    | false => exact ⟨events, x, [], rfl, hx, hl⟩
    | true =>
      obtain ⟨before, e, later, rfl, ho⟩ := ih hx
      exact ⟨before, e, later ++ [x], by simp, ho⟩

/-- A number that was in use is not the next new one. -/
theorem Opening.ne_new {before : List (Nat × Event)} {x : Nat × Event} {id : WindowId}
    (h : (start l columns rows).Opening before x id) (later : List (Nat × Event)) :
    id ≠ ⟨((start l columns rows).after (before ++ x :: later)).desktop.issued + 1⟩ := by
  rintro rfl
  have hs := (reached_after l columns rows (before ++ [x])).sound (isNew_start l columns rows)
  obtain ⟨e, he, hid⟩ := Desktop.isLive_iff.1 h.live
  have hle := hs.issued e he
  have hmono := issued_after l columns rows (before ++ [x]) later
  rw [hid] at hle
  rw [List.append_assoc, List.singleton_append] at hmono
  exact absurd (hle.trans hmono) (Nat.not_succ_le_self _)

theorem holds_countLine {w : Window} (hw : w ∈ ((start l columns rows).after events).desktop.windows)
    (hk : w.kind = Panel.apps.kind) {before : List (Nat × Event)} {e : Nat × Event}
    (he : events = before ++ e :: later) (ho : (start l columns rows).Opening before e w.id) :
    w.frame.Holds (Panel.counting (countLine events later)) := by
  induction events using List.reverseRecOn generalizing w before e later with
  | nil => cases before <;> cases he
  | append_singleton events x ih =>
    have hr := reached_after l columns rows events
    rw [after_append] at hw
    have hstep := (handled ((start l columns rows).after events) x.1 x.2).apps (isNew_start l columns rows) hr
      (furnished_after l columns rows events) hw hk
    rcases List.eq_nil_or_concat' later with rfl | ⟨later, y, rfl⟩
    · -- The last event has opened the window, so there was none of its number before.
      obtain ⟨rfl, -⟩ := List.append_inj' he rfl
      have habsent := ho.absent
      cases hstep with
      | kept _ hw₀ h => rw [h.id, Desktop.isLive_of_mem hw₀] at habsent; cases habsent
      | written _ hl => rw [hl] at habsent; cases habsent
      | opened _ h => exact h
    · rw [← List.cons_append, ← List.append_assoc] at he
      obtain ⟨rfl, hx⟩ := List.append_inj' he rfl
      obtain rfl := (List.cons.inj hx).1
      cases hstep with
      | kept hre hw₀ h =>
        obtain ⟨locks, hlocks⟩ := h.frame
        rw [countLine_keep hre, hlocks]
        exact (ih hw₀ (h.kind.symm.trans hk) rfl (h.id ▸ ho)).locks locks
      | written hre _ h =>
        rw [refreshes_after] at h
        rw [countLine_refresh hre]
        exact h
      | opened hid => exact absurd hid (ho.ne_new later)

/-- A window of applications was opened by one of the events, and shows how many refreshes
there were up to the last one, if there was one since. -/
structure Counts (a : App) (events : List (Nat × Event)) (w : Window) : Prop where
  opened : ∃ before e later, events = before ++ e :: later ∧ a.Opening before e w.id
  lines : ∀ before e later, events = before ++ e :: later → a.Opening before e w.id →
    w.frame.contentLines = [countLine events later, "press r to refresh"]

theorem counts_shown (l : CommandLine) (columns rows : Nat) (events : List (Nat × Event)) {w : Window}
    (hw : w ∈ ((start l columns rows).after events).desktop.windows) (hk : w.kind = Panel.apps.kind) :
    (start l columns rows).Counts events w := by
  refine ⟨exists_opening rfl (Desktop.isLive_of_mem hw), fun before e later he ho => ?_⟩
  obtain ⟨ws, hs, hwords, hne⟩ := countLine_words events later
  exact (holds_countLine hw hk he ho).contentLines hs hwords hne

/-- Two panels of applications, of which the second is opened after the first refresh. -/
theorem counts_shown_two :
    let events := ['2', 'r', '2'].map fun c => (0, Event.key (.char c) .press)
    let windows := ((start {} 80 24).after events).desktop.windows
    windows.map (fun w => (w.kind, w.frame.contentLines)) =
        [("apps", ["all: refresh #1", "press r to refresh"]), ("apps", ["no refresh yet", "press r to refresh"])] ∧
      ∀ w ∈ windows, (start {} 80 24).Counts events w := by
  intro events windows
  obtain ⟨hshown, hkind⟩ : windows.map (fun w => (w.kind, w.frame.contentLines)) =
      [("apps", ["all: refresh #1", "press r to refresh"]), ("apps", ["no refresh yet", "press r to refresh"])] ∧
      ∀ w ∈ windows, w.kind = Panel.apps.kind := by decide +kernel
  exact ⟨hshown, fun w hw => counts_shown {} 80 24 events hw (hkind w hw)⟩

end App

end FloatingPanels

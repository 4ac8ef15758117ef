import FloatingPanels.App.Basic
import FloatingPanels.Proofs.Desktop.Rearranged
import FloatingPanels.Proofs.Limit
import Mathlib.Data.List.Induction
/-!
# What events make of the application

An event opens a panel, refreshes the panels, or has the desktop arrange its windows.
`handled` says so of every event at every moment, and `after_inv` gives what every list of
events keeps. The theorems about the application are case analyses over `Handled`.
-/

namespace FloatingPanels

/-- The key for a refresh is pressed. -/
def Event.isRefresh (e : Event) : Bool := e = .key (.char 'r') .press

/-- All that the router makes of the mouse arranges windows. -/
theorem Router.route_arranges {r : Router} {e : MouseEvent} {now : Nat} {action : Action}
    (h : (r.route e now).2 = some action) : action.arranges := by
  unfold route at h
  split at h
  · split at h <;> cases h <;> rfl
  · cases h; rfl
  · cases h; rfl
  · cases h

namespace App

variable {a a' : App} {e : Event} {l : CommandLine} {columns rows : Nat}

/-- The application after some events, each with the time at which it comes. -/
def after (a : App) (events : List (Nat × Event)) : App := events.foldl (fun a e => (a.handle e.1 e.2).1) a

theorem after_append (a : App) (es es' : List (Nat × Event)) : a.after (es ++ es') = (a.after es).after es' :=
  List.foldl_append

theorem perform_desktop (a : App) (action : Action) : (a.perform action).desktop = (a.desktop.perform action).1 := rfl

/-- The panel that an event opens, if it opens one. -/
def opens? (a : App) : Event → Option Panel
  | .key (.char c) .press => if '1' ≤ c && c ≤ '9' then Panel.atRow ((c.toNat : Int) - '1'.toNat) else none
  | .mouse e => if a.launcherTakes e.point && e.kind = .down .left then Panel.atRow (e.point.y - 1) else none
  | _ => none

/-- What an event makes of the application. -/
inductive Handled (a : App) (e : Event) : App → Prop
  /-- Its actions arrange windows. -/
  | arranged (router : Router) (actions : List Action) (ha : ∀ x ∈ actions, x.arranges) (ho : a.opens? e = none)
      (hr : e.isRefresh = false) : Handled a e (actions.foldl perform { a with router })
  | opened (p : Panel) (ho : a.opens? e = some p) (hr : e.isRefresh = false) : Handled a e (a.openPanel p)
  | refreshed (ho : a.opens? e = none) (hr : e.isRefresh) : Handled a e a.refresh

/-! ## Every event -/

/-- An event without an effect. -/
theorem Handled.idle (ho : a.opens? e = none) (hr : e.isRefresh = false) : Handled a e a :=
  .arranged a.router [] (List.forall_mem_nil _) ho hr

theorem Handled.act {action : Action} (ha : action.arranges) (ho : a.opens? e = none) (hr : e.isRefresh = false)
    (router : Router) : Handled a e ({ a with router }.perform action) :=
  .arranged router [action] (List.forall_mem_singleton.2 ha) ho hr

/-- A row of the launcher, with or without a panel. -/
theorem Handled.row {row : Int} (ho : a.opens? e = Panel.atRow row) (hr : e.isRefresh = false) :
    Handled a e (a.openRow row) := by
  unfold openRow
  split
  · exact .opened _ (ho.trans ‹_›) hr
  · exact .idle (ho.trans ‹_›) hr

theorem Handled.onSome {f : WindowId → Action} (hf : ∀ id, (f id).arranges) (ho : a.opens? e = none)
    (hr : e.isRefresh = false) (id : Option WindowId) : Handled a e (a.onSome id f) := by
  cases id with
  | none => exact .idle ho hr
  | some id => exact .act (hf id) ho hr a.router

theorem handled_char (a : App) (c : Char) : Handled a (.key (.char c) .press) (a.press (.char c)).1 := by
  have hrefresh : (Event.key (.char c) .press).isRefresh = decide (c = 'r') := by
    simp [Event.isRefresh]
  by_cases hq : c = 'q'
  · subst hq
    exact .idle rfl rfl
  simp only [press, hq, if_false]
  by_cases hrow : ('1' ≤ c && c ≤ '9') = true
  · have ho : a.opens? (.key (.char c) .press) = Panel.atRow ((c.toNat : Int) - '1'.toNat) := if_pos hrow
    have hr : c ≠ 'r' := by
      rintro rfl
      exact absurd hrow (by decide)
    rw [if_pos hrow]
    exact .row ho (hrefresh.trans (decide_eq_false hr))
  have ho : a.opens? (.key (.char c) .press) = none := if_neg hrow
  rw [if_neg hrow]
  by_cases hr : c = 'r'
  · rw [if_pos hr]
    exact .refreshed ho (hrefresh.trans (decide_eq_true hr))
  have hr' := hrefresh.trans (decide_eq_false hr)
  rw [if_neg hr]
  by_cases hu : c = 'u'
  · rw [if_pos hu]
    exact .onSome (fun _ => rfl) ho hr' _
  rw [if_neg hu]
  by_cases hx : c = 'x'
  · rw [if_pos hx]
    exact .onSome (fun _ => rfl) ho hr' _
  rw [if_neg hx]
  by_cases hs : c = 's'
  · rw [if_pos hs]
    exact .onSome (fun _ => rfl) ho hr' _
  · rw [if_neg hs]
    exact .idle ho hr'

theorem handled_mouse (a : App) (now : Nat) (e : MouseEvent) : Handled a (.mouse e) (a.mouse now e) := by
  unfold mouse
  by_cases ht : a.launcherTakes e.point
  · rw [if_pos ht]
    by_cases hd : e.kind = .down .left
    · rw [if_pos hd]
      exact .row (if_pos (by simp [ht, hd])) rfl
    · rw [if_neg hd]
      exact .idle (if_neg (by simp [hd])) rfl
  · have ho : a.opens? (.mouse e) = none := if_neg (by simp [ht])
    rw [if_neg ht]
    simp only
    split
    · rename_i action haction
      exact .act (Router.route_arranges haction) ho rfl _
    · exact .arranged _ [] (List.forall_mem_nil _) ho rfl

theorem handled (a : App) (now : Nat) (e : Event) : Handled a e (a.handle now e).1 := by
  cases e with
  | key k motion =>
    cases motion with
    | press =>
      cases k with
      | char c => exact a.handled_char c
      | tab => exact .onSome (fun _ => rfl) rfl rfl _
      | _ => exact .idle rfl rfl
    | _ => exact .idle (by cases k <;> rfl) (by cases k <;> simp [Event.isRefresh])
  | mouse e => exact a.handled_mouse now e
  | resize columns rows => exact .arranged a.router [_, _] (by simp [Action.arranges]) rfl rfl
  | _ => exact .idle rfl rfl

/-! ## Every list of events -/

theorem isNew_start (l : CommandLine) (columns rows : Nat) : (start l columns rows).desktop.IsNew :=
  have hpage := (Page.isVacant_ofViewport (viewport columns rows)).setAnchor launcherAnchor
    (launcherRect (viewport columns rows))
  ⟨⟨hpage.names, hpage.empty⟩, rfl, rfl, rfl, rfl, rfl, rfl⟩

/-- A program that ends leaves its session, and any other leaves the one before. -/
theorem run_cases (a : App) (p : Program) :
    (a.run p).session = a.session ∨ a.session.run? (limit a.desktop) p = some (a.run p).session := by
  unfold run
  cases a.session.run? (limit a.desktop) p with
  | none => exact .inl rfl
  | some s => exact .inr rfl

theorem reached_run {d₀ : Desktop} (h : a.session.Reached d₀) (p : Program) : (a.run p).session.Reached d₀ := by
  rcases a.run_cases p with hr | hr
  · rw [hr]
    exact h
  · exact h.run? hr

theorem reached_performs {d₀ : Desktop} (h : a.session.Reached d₀) (actions : List Action) :
    (actions.foldl perform a).session.Reached d₀ :=
  List.foldlRecOn actions perform (motive := fun b => b.session.Reached d₀) h fun _ hb action _ => hb.perform action

theorem Handled.reached {d₀ : Desktop} (hh : Handled a e a') (h : a.session.Reached d₀) : a'.session.Reached d₀ := by
  cases hh with
  | arranged router actions => exact reached_performs (a := { a with router }) h actions
  | opened p => exact reached_run h _
  | refreshed => exact reached_run (a := { a with refreshes := a.refreshes + 1 }) h _

/-- What holds at the start and is kept by every event holds after all events. -/
theorem after_inv {P : App → Prop} (h0 : P (start l columns rows))
    (hn : ∀ {a a' e}, a.session.Reached (start l columns rows).desktop → Handled a e a' → P a → P a')
    (events : List (Nat × Event)) : P ((start l columns rows).after events) := by
  have hinv : ((start l columns rows).after events).session.Reached (start l columns rows).desktop ∧
      P ((start l columns rows).after events) := by
    induction events using List.reverseRecOn with
    | nil => exact ⟨Session.reached_start _, h0⟩
    | append_singleton events e ih =>
      rw [after_append]
      have hh := handled ((start l columns rows).after events) e.1 e.2
      exact ⟨hh.reached ih.1, hn ih.1 hh ih.2⟩
  exact hinv.2

theorem reached_after (l : CommandLine) (columns rows : Nat) (events : List (Nat × Event)) :
    ((start l columns rows).after events).session.Reached (start l columns rows).desktop :=
  after_inv (Session.reached_start _) (fun hr hh _ => hh.reached hr) events

end App

end FloatingPanels

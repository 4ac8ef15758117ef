import FloatingPanels.Proofs.App.Refresh
/-!
# The window about the program

There is one window about the program at most, and its address leads to it: a second one
would have claimed the address, too. To open it once more raises the one that there is.
-/

namespace FloatingPanels

namespace Desktop

/-- A window has come to the top, and that is all. -/
structure Raises (d d' : Desktop) (id : WindowId) : Prop where
  top : d'.stack.getLast? = some id
  order : d'.stack.filter (· ≠ id) = d.stack.filter (· ≠ id)
  /-- The same windows are live, and nothing of them has changed but their heights and locks. -/
  windows : ∀ i, d'.core? i = d.core? i

theorem raises_of_stackedAs {d d' : Desktop} {id : WindowId} (h : d'.StackedAs (Stack.raise d.stack (some id)))
    (hc : ∀ i, d'.core? i = d.core? i) : d.Raises d' id := by
  have hstack : d'.stack = d.stack.filter (· ≠ id) ++ [id] := h.stack
  refine ⟨?_, ?_, hc⟩
  · rw [hstack, List.getLast?_concat]
  · rw [hstack, List.filter_append, List.filter_filter]
    simp

end Desktop

namespace App

variable {a : App} {w : Window}

/-- There is no second window about the program, and none can come. -/
structure AboutOnce (a : App) : Prop where
  unique : ∀ w ∈ a.desktop.windows, ∀ v ∈ a.desktop.windows, w.kind = Panel.about.kind →
    v.kind = Panel.about.kind → w = v
  named : ∀ w ∈ a.desktop.windows, w.kind = Panel.about.kind → a.desktop.byAddress Panel.aboutAddress = some w.id
  /-- Whatever opens the panel raises the window that is there. -/
  reopened : ∀ w ∈ a.desktop.windows, w.kind = Panel.about.kind → ∀ now e, a.opens? e = some .about →
    a.desktop.Raises (a.handle now e).1.desktop w.id

theorem named_of_furnished (hf : a.session.Furnished) (hw : w ∈ a.desktop.windows) (hk : w.kind = Panel.about.kind) :
    a.desktop.byAddress Panel.aboutAddress = some w.id := by
  obtain ⟨p, hp⟩ := hf.windows w hw
  obtain rfl := Panel.kind_injective (hk.symm.trans hp.kind)
  exact hp.named _ rfl

theorem handle_of_opens (now : Nat) {e : Event} {p : Panel} (h : a.opens? e = some p) :
    (a.handle now e).1 = a.openPanel p := by
  have hh := a.handled now e
  generalize (a.handle now e).1 = a' at hh ⊢
  cases hh with
  | opened q ho => rw [Option.some.inj (ho.symm.trans h)]
  | arranged _ _ _ ho => cases ho.symm.trans h
  | refreshed ho => cases ho.symm.trans h

theorem about_once (l : CommandLine) (columns rows : Nat) (events : List (Nat × Event)) :
    ((start l columns rows).after events).AboutOnce := by
  have hr := reached_after l columns rows events
  have hf := furnished_after l columns rows events
  have hs := hr.sound (isNew_start l columns rows)
  have hst := hr.stackedAs (isNew_start l columns rows)
  generalize (start l columns rows).after events = a at *
  refine ⟨fun w hw v hv hwk hvk => ?_, fun w hw hk => named_of_furnished hf hw hk, fun w hw hk now e ho => ?_⟩
  · -- Both have the address.
    have hid := (named_of_furnished hf hw hwk).symm.trans (named_of_furnished hf hv hvk)
    have hwindow := hs.window?_of_mem hw
    rw [Option.some.inj hid, hs.window?_of_mem hv] at hwindow
    exact (Option.some.inj hwindow).symm
  · have hn := named_of_furnished hf hw hk
    rw [handle_of_opens now ho]
    have hy := openPanel_yields hf hs (fun _ => hr.subscribed) hn (Desktop.isLive_of_mem hw)
    exact Desktop.raises_of_stackedAs (hy.stacked _ hst) hy.cores

/-- The window about the program is below a note until its key is pressed again. -/
example :
    let a := (start {} 80 24).after [(0, .key (.char '3') .press), (0, .key (.char '1') .press)]
    a.desktop.windows.map (fun w => (w.id, w.kind, w.z)) = [(⟨1⟩, "about", 1), (⟨2⟩, "notes", 2)] ∧
      (a.handle 0 (.key (.char '3') .press)).1.desktop.windows.map (fun w => (w.id, w.kind, w.z)) =
        [(⟨1⟩, "about", 2), (⟨2⟩, "notes", 1)] := by
  decide +kernel

end App

end FloatingPanels

import FloatingPanels.Proofs.Desktop.Shift
import FloatingPanels.Proofs.Integrity
/-!
# Deeds

The deed of a moment is the action on windows that the next step comes to, whoever
asks for it: a press of the pointer comes to the action on the window under it, a
construction hook that does not accept to the end of its window, and a completed
creation to the placement that was wished for. `run_shift` says that from one moment of
a run to the next the postures change by the `Shift` of its deed.
-/

namespace FloatingPanels

namespace Desktop

/-- The action on a window that a task comes to, if any. -/
def comesTo (d : Desktop) : Task → Option Action
  | .idle | .instantiate _ => none
  | .act action => d.directed action
  | .conclude id _ v =>
    match v with
    | .ok true => none
    | _ => some (.destroy id)
  | .complete id spec => spec.under.map (.placeUnder id)

theorem carryOut_shift {d : Desktop} (hs : Sound d) (t : Task) : Shift d (d.comesTo t) (d.carryOut t) := by
  cases t with
  | idle => exact .refl d _
  | act action => exact perform_shift hs action
  | instantiate spec => exact shift_instantiate hs spec
  | complete id spec => exact shift_complete id spec
  | conclude id kind v =>
    simp only [carryOut, concludeHook]
    split
    · exact .refl d _
    · -- A verdict that is not an acceptance ends the window.
      rcases v with _ | _ | _
      · exact shift_discard id
      · exact shift_discard id
      · exact .refl d _

/-- A construction hook that does not accept ends its window as its destruction does. -/
theorem concludeHook_refused (d : Desktop) (id : WindowId) (kind : String) {v : Verdict} (hv : v ≠ .ok true) :
    (d.concludeHook id kind v).1 = (d.perform (.destroy id)).1 := by
  have hd : (d.perform (.destroy id)).1 = d.discard id := by
    simp only [perform, destroy, discard]
    cases d.window? id <;> rfl
  rw [hd]
  simp only [concludeHook]
  split
  · rename_i hl
    cases hw : d.window? id with
    | none => simp [discard, hw]
    | some w => simp [isLive, hw] at hl
  · rcases v with _ | _ | _
    · rfl
    · rfl
    · exact absurd rfl hv

end Desktop

namespace Machine

variable {m m' : Machine}

/-- The action on a window that the next step comes to. -/
def deed? (m : Machine) : Option Action := m.desktop.comesTo m.task

theorem next_shift (h : m.Next m') (hs : m.desktop.Sound) : m.desktop.Shift m.deed? m'.desktop := by
  cases h with
  | step =>
    rw [step_task]
    exact Desktop.carryOut_shift hs m.task
  | again p hm => exact .refl m.desktop _

theorem deed?_of_stopped (h : m.isStopped) : m.deed? = none := by
  obtain ⟨s, phase, stack⟩ := m
  cases phase with
  | stop v => rfl
  | _ => cases h

/-- A deed is carried out as if the host had asked for it, except that a creation may
end with a placement. -/
theorem next_deed {a : Action} (h : m.Next m') (ha : m.deed? = some a) (hp : ∀ id anchor, a ≠ .placeUnder id anchor) :
    m'.desktop = (m.desktop.perform a).1 := by
  cases h with
  | again p hm =>
    rw [deed?_of_stopped hm] at ha
    cases ha
  | step =>
    rw [step_task]
    unfold deed? at ha
    cases ht : m.task with
    | idle => rw [ht] at ha; cases ha
    | instantiate spec => rw [ht] at ha; cases ha
    | act action =>
      rw [ht] at ha
      simp only [Desktop.carryOut, Desktop.perform_directed m.desktop action]
      rw [show m.desktop.directed action = some a from ha]
      rfl
    | complete id spec =>
      rw [ht] at ha
      obtain ⟨anchor, -, rfl⟩ := Option.map_eq_some_iff.1 ha
      exact absurd rfl (hp id anchor)
    | conclude id kind v =>
      rw [ht] at ha
      rcases v with _ | _ | _ <;> cases ha
      · exact m.desktop.concludeHook_refused id kind nofun
      · exact m.desktop.concludeHook_refused id kind nofun

end Machine

variable {d₀ : Desktop} {m m' : Machine} {ms : List Machine}

theorem run_shift (h₀ : d₀.IsNew) (h : Run d₀ (m' :: m :: ms)) : m.desktop.Shift m.deed? m'.desktop := by
  cases h with
  | next h hn => exact Machine.next_shift hn (run_sound h₀ h)

/-- What a new desktop has, and every shift from a moment at which `Q` holds keeps, all
desktops of a run have. -/
theorem run_keeps {P : Desktop → Prop} {Q : Machine → Prop} (h₀ : d₀.IsNew) (h0 : P d₀)
    (hn : ∀ {n : Machine} {d : Desktop}, n.desktop.Sound → Q n → n.desktop.Shift n.deed? d → P n.desktop → P d)
    (h : Run d₀ (m :: ms)) (hq : ∀ n ∈ ms, Q n) : P m.desktop := by
  have hinv := h.inv_of (P := fun m => m.desktop.Sound ∧ P m.desktop) (Q := Q) (fun _ => ⟨h₀.sound, h0⟩) ?_ hq
  · exact hinv.2
  · rintro m m' hm hq ⟨hs, hp⟩
    exact ⟨(Machine.next_desktop hm hs).sound hs, hn hs hq (Machine.next_shift hm hs) hp⟩

end FloatingPanels

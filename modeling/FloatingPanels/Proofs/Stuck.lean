import FloatingPanels.Proofs.Deeds
/-!
# Stuck windows

A stuck window is held in place, whether it was maximized before or not. `run_stuck` says
for runs of any length that nothing moves it or changes what it has to restore until it is
let loose, placed under an anchor or removed, or the viewport changes: no gesture, no
press of the pointer and no other change of mode, on this window or on others.
-/

namespace FloatingPanels

namespace Desktop

/-- Whether an action lets a window loose that is stuck, removes it or places it, or changes
the viewport. An action that is refused does none of this. -/
def frees (d : Desktop) (w : Window) : Action → Bool
  | .unstick id | .toggleStick id | .destroy id => id = w.id
  | .close id => id = w.id && w.caps.close
  | .placeUnder id anchor => id = w.id && (d.page.anchor? anchor).isSome
  | .setViewport _ => true
  | _ => false

variable {d d' : Desktop} {w : Window} {mode : Mode} {rect : Rect}

theorem Turn.stuck {a : Action} (h : Turn d w a mode rect) (hm : w.mode.isStuck) (ha : ¬ d.frees w a) :
    mode = w.mode ∧ rect = w.rect := by
  cases hw : w.mode with
  | stuck restore =>
    cases h with
    | fill hn _ => rcases hn with hn | hn <;> rw [hw] at hn <;> cases hn
    | normalize _ hn _ => rw [hw] at hn; cases hn
    | hide hn _ => rw [hw] at hn; cases hn
    | reveal _ hn _ => rw [hw] at hn; cases hn
    | stick _ hn _ => rw [hw] at hn; cases hn
    | unstick hb _ => rcases hb with rfl | rfl <;> simp [frees] at ha
    | fit hn _ => rw [hm] at hn; cases hn
    | place hr => simp [frees, hr] at ha
    | drag _ hn => rw [hw] at hn; cases hn
    | resize _ hn => rw [hw] at hn; cases hn
  | _ => rw [hw] at hm; cases hm

theorem Grip.not_stuck {a : Action} (h : Grip w a mode) : w.mode.isStuck = false := by
  cases h with
  | drag hs _ => exact hs
  | resize hs _ _ => exact hs

theorem Fate.stuck {a : Option Action} (h : Fate d a d' w mode rect) (hm : w.mode.isStuck)
    (ha : ∀ b ∈ a, ¬ d.frees w b) : mode = w.mode ∧ rect = w.rect := by
  cases h with
  | keep _ => exact ⟨rfl, rfl⟩
  | turn hb ht _ => exact ht.stuck hm (ha _ hb)
  | grip _ _ ht _ =>
    rw [ht.not_stuck] at hm
    cases hm
  | release _ _ _ =>
    -- The release of the pointer ends no other mode than those of gestures.
    cases hw : w.mode with
    | stuck restore => exact ⟨rfl, rfl⟩
    | _ => rw [hw] at hm; cases hm
  | settle hb _ => exact absurd rfl (ha _ hb)

/-- A live window is stuck with this mode at this place. -/
def StuckAt (d : Desktop) (id : WindowId) (mode : Mode) (rect : Rect) : Prop :=
  mode.isStuck ∧ ∃ w, d.window? id = some w ∧ w.mode = mode ∧ w.rect = rect

theorem Shift.stuckAt {a : Option Action} (h : Shift d a d') {id : WindowId} (hs : d.StuckAt id mode rect)
    (ha : ∀ w ∈ d.window? id, ∀ b ∈ a, ¬ d.frees w b) : d'.StuckAt id mode rect := by
  obtain ⟨hm, w, hw, rfl, rfl⟩ := hs
  obtain ⟨-, rfl⟩ := mem_of_window? hw
  have ha := ha w hw
  have hl : d'.isLive w.id := by
    refine (h.live hw).resolve_right ?_
    rintro (rfl | ⟨rfl, hc⟩)
    · simp [frees] at ha
    · simp [frees, hc] at ha
  obtain ⟨w', hw'⟩ := exists_window hl
  obtain ⟨hmode, hrect⟩ := (h.fate_of_window? hw hw').2.stuck hm ha
  exact ⟨hm, w', hw', hmode, hrect⟩

end Desktop

variable {d₀ : Desktop} {m m' : Machine} {ms later : List Machine}

/-- As long as nothing frees it, a stuck window stays where it is and in the mode that it
is in, with the rectangle that it has to restore. -/
theorem run_stuck (h₀ : d₀.IsNew) (h : Run d₀ (m' :: (later ++ m :: ms))) {id : WindowId} {w : Window}
    (hw : m.desktop.window? id = some w) (hm : w.mode.isStuck)
    (hf : ∀ n ∈ later ++ [m], ∀ v ∈ n.desktop.window? id, ∀ a ∈ n.deed?, ¬ n.desktop.frees v a) :
    ∃ w', m'.desktop.window? id = some w' ∧ w'.mode = w.mode ∧ w'.rect = w.rect := by
  have hs : m'.desktop.StuckAt id w.mode w.rect :=
    h.since (P := fun n => n.desktop.StuckAt id w.mode w.rect)
      (Q := fun n => ∀ v ∈ n.desktop.window? id, ∀ a ∈ n.deed?, ¬ n.desktop.frees v a) (R := fun _ => True)
      (fun n n' ns h hq _ hs => (run_shift h₀ h).stuckAt hs hq) ⟨hm, w, hw, rfl, rfl⟩ hf fun _ _ => trivial
  exact hs.2

/-- A host that sticks a maximized window, presses and clicks on it, drags another window,
and asks the stuck one to change its mode. -/
def pushStuck : Program :=
  .create [.passive { kind := "note" }] fun _ =>
    .then_ (.maximize ⟨1⟩) (.then_ (.stick ⟨1⟩) (.then_ (.pointerDown ⟨30, 10⟩) (.then_ (.doubleClick ⟨30, 10⟩)
      (.create [.passive { kind := "note" }] fun _ => .then_ (.beginDrag ⟨2⟩ ⟨5, 5⟩) (.then_ (.pointerMove ⟨300, 300⟩)
        (.then_ .pointerUp (.then_ (.maximize ⟨1⟩) (.then_ (.placeUnder ⟨1⟩ "nowhere") (.then_ (.hide ⟨1⟩) .accept)))))))))

theorem run_stuck_pushStuck :
    let s := Machine.start { desktop := .plain } pushStuck
    let later := [19, 18, 17, 16, 15, 14, 13, 12, 11, 10, 9, 8].map fun n => Machine.step^[n] s
    Desktop.plain.IsNew ∧ Run .plain (Machine.step^[20] s :: (later ++ Machine.step^[7] s :: Machine.moments s 6)) ∧
      (∀ n ∈ later ++ [Machine.step^[7] s], ∀ v ∈ n.desktop.window? ⟨1⟩, ∀ a ∈ n.deed?, ¬ n.desktop.frees v a) ∧
      ∃ w, (Machine.step^[7] s).desktop.window? ⟨1⟩ = some w ∧ w.mode = .stuck (some ⟨0, 0, 50, 62⟩) ∧
        ∃ w', (Machine.step^[20] s).desktop.window? ⟨1⟩ = some w' ∧ w'.mode = w.mode ∧ w'.rect = w.rect := by
  intro s later
  have hrun : Run .plain (Machine.step^[20] s :: (later ++ Machine.step^[7] s :: Machine.moments s 6)) :=
    Run.moments pushStuck 20
  have hf : ∀ n ∈ later ++ [Machine.step^[7] s], ∀ v ∈ n.desktop.window? ⟨1⟩, ∀ a ∈ n.deed?,
      ¬ n.desktop.frees v a := by decide +kernel
  have hw : ((Machine.step^[7] s).desktop.window? ⟨1⟩).map Window.mode = some (.stuck (some ⟨0, 0, 50, 62⟩)) := by
    decide +kernel
  obtain ⟨w, hw, hm⟩ := Option.map_eq_some_iff.1 hw
  exact ⟨Desktop.isNew_plain, hrun, hf, w, hw, hm, run_stuck Desktop.isNew_plain hrun hw (by rw [hm]; rfl) hf⟩

end FloatingPanels

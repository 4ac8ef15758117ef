import FloatingPanels.Proofs.Rounds
import FloatingPanels.Proofs.Stacking
/-!
# Sessions that programs leave

A program that comes to its end in a few steps comes to the same end under every limit
that allows for them. The session that it leaves is that of a moment of a run, so all
that is known of those moments is known of the sessions a host goes on with: they are
`Reached`.
-/

namespace FloatingPanels

namespace Machine

variable {m m' m'' : Machine} {n k limit : Nat}

/-- At most `n` steps lead from one moment to another. -/
def Within (n : Nat) (m m' : Machine) : Prop := ∃ k ≤ n, step^[k] m = m'

theorem within_step (m : Machine) : Within 1 m m.step := ⟨1, Nat.le_refl 1, rfl⟩

theorem Within.trans (h : Within n m m') (h' : Within k m' m'') : Within (n + k) m m'' := by
  obtain ⟨i, hi, rfl⟩ := h
  obtain ⟨j, hj, rfl⟩ := h'
  exact ⟨j + i, by omega, Function.iterate_add_apply step j i m⟩

theorem Within.mono (h : Within n m m') (hn : n ≤ k) : Within k m m' := by
  obtain ⟨i, hi, hm⟩ := h
  exact ⟨i, hi.trans hn, hm⟩

theorem step_of_stopped (h : m.isStopped) : m.step = m := by
  obtain ⟨s, phase, stack⟩ := m
  cases phase with
  | stop v => rfl
  | _ => cases h

theorem run?_of_stopped (h : m.isStopped) (limit : Nat) : m.run? limit = some m.session := by
  cases limit <;> simp only [run?, h, if_true]

theorem run?_of_within (h : Within n m m') (hm : m'.isStopped) (hn : n ≤ limit) : m.run? limit = some m'.session := by
  obtain ⟨k, hk, rfl⟩ := h
  induction k generalizing m limit n with
  | zero => exact run?_of_stopped hm limit
  | succ k ih =>
    obtain ⟨limit, rfl⟩ := Nat.exists_eq_succ_of_ne_zero (show limit ≠ 0 by omega)
    by_cases hs : m.isStopped
    · -- A program that has ended takes no more steps.
      rw [Function.iterate_fixed (step_of_stopped hs)]
      exact run?_of_stopped hs _
    · rw [run?, if_neg hs]
      exact ih (n := k) (by omega) (Nat.le_refl k) hm

/-! ## Programs of a few steps -/

section

variable {d d₁ d' : Desktop} {sw sw' : Switchboard} {stack : List Waiting} {c : Creation} {id : WindowId}

theorem step_act {action : Action} (hsub : ∀ l, sw.has l → (d.perform action).1.isLive l.id) (next : Answer → Program) :
    step ⟨⟨d, sw⟩, .run (.act action next), stack⟩ =
      ⟨⟨(d.perform action).1, sw⟩, .run (next (d.perform action).2), stack⟩ := by
  simp only [step, request, Session.perform, Session.withDesktop_of_live (s := ⟨d, sw⟩) hsub]

/-- A request for one creation, up to the program that goes on with what came of it. -/
theorem within_create (hbuilt : d.instantiate c.spec = (d₁, .ok id)) (hsub : ∀ l, sw.has l → d₁.isLive l.id)
    {next : List Created → Program} {result : Created}
    (hhook : Within n ⟨⟨d₁, sw⟩, .run (c.hook id), [.hook c id ⟨[], [], next⟩]⟩
      ⟨⟨d', sw'⟩, .turn ⟨[.ended result], [], next⟩, []⟩) :
    Within (1 + (1 + (n + 1))) (.start ⟨d, sw⟩ (.create [c] next)) ⟨⟨d', sw'⟩, .run (next [result]), []⟩ := by
  have hbegin := within_step ⟨⟨d, sw⟩, .turn ⟨[], [.waiting c], next⟩, []⟩
  rw [step_built hsub hbuilt] at hbegin
  have hend := within_step ⟨⟨d', sw'⟩, .turn ⟨[.ended result], [], next⟩, []⟩
  exact (within_step _).trans (hbegin.trans (hhook.trans hend))

end

end Machine

namespace Session

/-- A desktop that was new has been left like this, by programs of a host that have ended. -/
def Reached (d₀ : Desktop) (s : Session) : Prop :=
  ∃ m ms, Run d₀ (m :: ms) ∧ m.isStopped ∧ m.session = s

variable {d₀ : Desktop} {s s' : Session}

/-- A run that ends ends at a moment, with all that steps keep. -/
theorem exists_ended {P : Machine → Prop} (hn : ∀ m ms, Run d₀ (m :: ms) → P m → P m.step) {m : Machine}
    {ms : List Machine} (h : Run d₀ (m :: ms)) (hp : P m) {limit : Nat} (hr : m.run? limit = some s) :
    ∃ m' ms', Run d₀ (m' :: ms') ∧ m'.isStopped ∧ m'.session = s ∧ P m' := by
  have ended : ∀ {m ms}, Run d₀ (m :: ms) → P m → m.isStopped → some m.session = some s →
      ∃ m' ms', Run d₀ (m' :: ms') ∧ m'.isStopped ∧ m'.session = s ∧ P m' :=
    fun h hp hm hs => ⟨_, _, h, hm, Option.some.inj hs, hp⟩
  induction limit generalizing m ms with
  | zero =>
    rw [Machine.run?] at hr
    split at hr
    · exact ended h hp ‹_› hr
    · cases hr
  | succ limit ih =>
    rw [Machine.run?] at hr
    split at hr
    · exact ended h hp ‹_› hr
    · exact ih (h.next .step) (hn m ms h hp) hr

theorem reached_of_run? {m : Machine} {ms : List Machine} (h : Run d₀ (m :: ms)) {limit : Nat}
    (hr : m.run? limit = some s) : s.Reached d₀ := by
  obtain ⟨m', ms', hrun, hstop, hs, -⟩ := exists_ended (P := fun _ => True) (fun _ _ _ _ => trivial) h trivial hr
  exact ⟨m', ms', hrun, hstop, hs⟩

theorem reached_start (d₀ : Desktop) : Reached d₀ { desktop := d₀ } :=
  reached_of_run? (.begin .accept) (show Machine.run? 1 _ = some _ from rfl)

/-- A host goes on with the session that it was left. -/
theorem Reached.run? (h : s.Reached d₀) {p : Program} {limit : Nat} (hr : s.run? limit p = some s') : s'.Reached d₀ := by
  obtain ⟨m, ms, hm, hstop, rfl⟩ := h
  exact reached_of_run? (hm.next (.again p hstop)) hr

/-- An action of the host is a program that asks for it. -/
theorem run?_act (s : Session) (action : Action) :
    s.run? 2 (.act action fun _ => .accept) = some (s.perform action).1 := rfl

theorem Reached.perform (h : s.Reached d₀) (action : Action) : (s.perform action).1.Reached d₀ :=
  h.run? (s.run?_act action)

/-- Numbers are counted up. -/
theorem Reached.issued_le (h₀ : d₀.IsNew) (h : s.Reached d₀) {p : Program} {limit : Nat}
    (hr : s.run? limit p = some s') : s.desktop.issued ≤ s'.desktop.issued := by
  obtain ⟨m, ms, hm, hstop, rfl⟩ := h
  have hstep : ∀ n ns, Run d₀ (n :: ns) → m.session.desktop.issued ≤ n.desktop.issued →
      m.session.desktop.issued ≤ n.step.desktop.issued := by
    intro n ns hrun hle
    have := (Machine.next_desktop (.step (m := n)) (run_sound h₀ hrun)).issued.1
    omega
  obtain ⟨m', -, -, -, rfl, hle⟩ := exists_ended hstep (hm.next (.again p hstop)) (Nat.le_refl _) hr
  exact hle

theorem Reached.sound (h₀ : d₀.IsNew) (h : s.Reached d₀) : s.desktop.Sound := by
  obtain ⟨m, ms, hm, -, rfl⟩ := h
  exact run_sound h₀ hm

theorem Reached.stackedAs (h₀ : d₀.IsNew) (h : s.Reached d₀) : s.desktop.StackedAs s.desktop.stack := by
  obtain ⟨m, ms, hm, -, rfl⟩ := h
  have hs := run_stackedAs h₀ hm
  exact hs.stack.symm ▸ hs

/-- What has a handler is live. -/
theorem Reached.subscribed (h : s.Reached d₀) {l : Line} (hl : s.switchboard.has l) : s.desktop.isLive l.id := by
  obtain ⟨m, ms, hm, -, rfl⟩ := h
  exact run_subscribed hm l hl

end Session

end FloatingPanels

import FloatingPanels.Terminal.Loop
import Mathlib.Logic.Function.Iterate
/-!
# No input is lost

A handler that keeps a record of its calls is a handler like any other, and the loop runs
as it does without the record. So the record tells what the loop calls a handler with.
`Conserves` says what holds after every step: the events that were handed out, and then
those that are left, are the script; ticks come first and when nothing is left; and the
first call that does not let the loop go on is the last one and decides how it ends.
-/

namespace FloatingPanels.EventLoop

variable {σ ε : Type}

/-! ## Calls -/

/-- A call of a handler: with an event, or with none for a tick, and what was answered. -/
structure HandlerCall (ε : Type) where
  event : Option Event
  answer : Except ε Decision

/-- How a call ends the loop, if it does. -/
def HandlerCall.ending? (c : HandlerCall ε) : Option (Ending ε) :=
  match c.answer with
  | .error e => some (.failed e)
  | .ok .quit => some .quit
  | .ok .proceed => none

/-- A handler that keeps a record of its calls, the latest last. -/
def recorded (react : Reaction σ ε) : Reaction (σ × List (HandlerCall ε)) ε := fun event s =>
  let (state, answer) := react event s.1
  ((state, s.2 ++ [⟨event, answer⟩]), answer)

/-- The events among some calls. -/
def events (cs : List (HandlerCall ε)) : List Event := cs.filterMap HandlerCall.event

/-- How the loop has ended, if it has. -/
def Phase.ending? : Phase ε → Option (Ending ε)
  | .ended how => some how
  | _ => none

theorem ending?_after (script : Script) (event : Option Event) (answer : Except ε Decision) :
    (after script answer).ending? = (HandlerCall.mk event answer).ending? := by
  rcases answer with e | _ | _
  · rfl
  · unfold after
    cases script.ready <;> rfl
  · rfl

/-- A tick comes when nothing is left. -/
theorem script_of_tick {script : Script} {answer : Except ε Decision} (h : after script answer = .tick) : script = [] := by
  rcases answer with e | _ | _
  · cases h
  · cases script with
    | nil => rfl
    | cons e script => cases h
  · cases h

/-- The loop reads an event only when there is one. -/
theorem script_of_event {script : Script} {answer : Except ε Decision} (h : after script answer = .event) :
    script ≠ [] := by
  rcases answer with e | _ | _
  · cases h
  · cases script with
    | nil => cases h
    | cons e script => exact List.cons_ne_nil e script
  · cases h

/-! ## Every step -/

/-- What holds of a loop over a script after `n` steps, with the record of its calls. -/
structure Conserves (script : Script) (n : Nat) (m : Moment (σ × List (HandlerCall ε)) ε) : Prop where
  delivered : events m.state.2 ++ m.script = script
  first : ∀ c ∈ m.state.2.head?, c.event = none
  /-- Every other tick comes after the whole script. -/
  again : ∀ cs c, cs ++ [c] <+: m.state.2 → cs ≠ [] → c.event = none → events cs = script
  /-- All calls but the last have let the loop go on. -/
  proceeded : ∀ c ∈ m.state.2.dropLast, c.ending? = none
  ended : m.phase.ending? = m.state.2.getLast?.bind HandlerCall.ending?
  /-- As long as the loop goes on, every step is a call. -/
  called : m.phase.ending? = none → m.state.2.length = n
  tick : m.phase = .tick → m.state.2 = [] ∨ m.script = []
  event : m.phase = .event → m.state.2 ≠ [] ∧ m.script ≠ []

variable {script rest : Script} {n : Nat} {m : Moment (σ × List (HandlerCall ε)) ε}

theorem conserves_start (s : σ) (script : Script) :
    Conserves script 0 (⟨(s, []), script, .tick⟩ : Moment (σ × List (HandlerCall ε)) ε) where
  delivered := rfl
  first c hc := by cases hc
  again cs c h := by simp at h
  proceeded c hc := by cases hc
  ended := rfl
  called _ := rfl
  tick _ := .inl rfl
  event h := by cases h

/-- As long as the loop goes on, all calls have let it. -/
theorem Conserves.all_proceeded (h : Conserves script n m) (hgoes : m.phase.ending? = none) :
    ∀ c ∈ m.state.2, c.ending? = none := by
  have hlast := h.ended
  rw [hgoes] at hlast
  rcases List.eq_nil_or_concat m.state.2 with hnil | ⟨cs, c, hcs⟩
  · rw [hnil]
    exact List.forall_mem_nil _
  · rw [List.concat_eq_append] at hcs
    have hproceeded := h.proceeded
    rw [hcs, List.dropLast_concat] at hproceeded
    rw [hcs, List.getLast?_concat, Option.bind_some] at hlast
    rw [hcs]
    intro d hd
    rcases List.mem_append.1 hd with hd | hd
    · exact hproceeded d hd
    · rw [List.mem_singleton.1 hd]
      exact hlast.symm

/-- One more call: with the next event, or with a tick if it is the first call or nothing
is left. -/
theorem Conserves.call (h : Conserves script n m) (hgoes : m.phase.ending? = none) (event : Option Event)
    (hrest : event.toList ++ rest = m.script) (hfirst : m.state.2 = [] → event = none)
    (htick : event = none → m.state.2 = [] ∨ m.script = []) (s : σ) (answer : Except ε Decision) :
    Conserves script (n + 1) ⟨(s, m.state.2 ++ [⟨event, answer⟩]), rest, after rest answer⟩ where
  delivered := by
    have hevent : events [(⟨event, answer⟩ : HandlerCall ε)] = event.toList := by cases event <;> rfl
    rw [events, List.filterMap_append, ← events, ← events, hevent, List.append_assoc, hrest, h.delivered]
  first c hc := by
    rw [List.head?_append] at hc
    cases hcs : m.state.2 with
    | nil =>
      rw [hcs] at hc
      obtain rfl : (⟨event, answer⟩ : HandlerCall ε) = c := by simpa using hc
      exact hfirst hcs
    | cons d cs =>
      refine h.first c ?_
      rwa [hcs] at hc ⊢
  again cs c hprefix hcs hc := by
    rcases List.prefix_concat_iff.1 hprefix with heq | hprefix
    · obtain ⟨rfl, hlast⟩ := List.append_inj' heq rfl
      obtain rfl : c = ⟨event, answer⟩ := by simpa using hlast
      have hdone := (htick hc).resolve_left hcs
      rw [← h.delivered, hdone, List.append_nil]
    · exact h.again cs c hprefix hcs hc
  proceeded c hc := by
    rw [List.dropLast_concat] at hc
    exact h.all_proceeded hgoes c hc
  ended := by
    rw [List.getLast?_concat, Option.bind_some]
    exact ending?_after rest event answer
  called _ := by
    rw [List.length_append, h.called hgoes]
    rfl
  tick ht := .inr (script_of_tick ht)
  event he := ⟨by simp, script_of_event he⟩

theorem Conserves.step (h : Conserves script n m) (react : Reaction σ ε) :
    Conserves script (n + 1) (step (recorded react) m) := by
  obtain ⟨⟨s, cs⟩, left, phase⟩ := m
  cases phase with
  | ended how => exact { h with called := fun hgoes => by cases hgoes }
  | tick => exact h.call rfl none rfl (fun _ => rfl) (fun _ => h.tick rfl) _ _
  | event =>
    obtain ⟨hcs, hleft⟩ := h.event rfl
    cases left with
    | nil => exact absurd rfl hleft
    | cons e left =>
      exact h.call rfl (some e) rfl (fun hnil => absurd hnil hcs) (fun hnone => by cases hnone) _ _

/-! ## Every run -/

/-- The loop with a record of its calls after `n` steps. -/
def reached (react : Reaction σ ε) (s : σ) (script : Script) (n : Nat) : Moment (σ × List (HandlerCall ε)) ε :=
  (EventLoop.step (recorded react))^[n] ⟨(s, []), script, .tick⟩

theorem conserves_reached (react : Reaction σ ε) (s : σ) (script : Script) (n : Nat) :
    Conserves script n (reached react s script n) := by
  induction n with
  | zero => exact conserves_start s script
  | succ n ih =>
    rw [reached, Function.iterate_succ_apply']
    exact ih.step react

/-- A moment without the record. -/
def Moment.bare (m : Moment (σ × List (HandlerCall ε)) ε) : Moment σ ε := ⟨m.state.1, m.script, m.phase⟩

/-- The record makes no difference to the loop. -/
theorem bare_step (react : Reaction σ ε) :
    Function.Semiconj Moment.bare (EventLoop.step (recorded react)) (EventLoop.step react) := by
  rintro ⟨⟨s, cs⟩, left, phase⟩
  cases phase with
  | event => cases left <;> rfl
  | _ => rfl

theorem run?_eq (react : Reaction σ ε) (limit : Nat) (m : Moment σ ε) :
    run? react limit m =
      ((EventLoop.step react)^[limit] m).phase.ending?.map fun how =>
        (how, ((EventLoop.step react)^[limit] m).state, ((EventLoop.step react)^[limit] m).script) := by
  have hstill : ∀ (k : Nat) (s : σ) (left : Script) (how : Ending ε),
      (EventLoop.step react)^[k] ⟨s, left, .ended how⟩ = ⟨s, left, .ended how⟩ :=
    fun k s left how => Function.iterate_fixed rfl k
  induction limit generalizing m with
  | zero =>
    obtain ⟨s, left, phase⟩ := m
    cases phase <;> rfl
  | succ limit ih =>
    obtain ⟨s, left, phase⟩ := m
    cases phase with
    | ended how =>
      rw [hstill]
      rfl
    | _ => exact ih _

/-- The loop neither loses nor repeats nor reorders events, and it ends with the first call
that does not let it go on, as this call has it and with the events that were not handed
out. -/
theorem run_conserves (react : Reaction σ ε) (s : σ) (script : Script) (n : Nat) :
    Conserves script n (reached react s script n) ∧
      run? react n { state := s, script } =
        ((reached react s script n).state.2.getLast?.bind HandlerCall.ending?).map fun how =>
          (how, (reached react s script n).state.1, (reached react s script n).script) := by
  have hconserves := conserves_reached react s script n
  have hbare : (EventLoop.step react)^[n] { state := s, script } = (reached react s script n).bare :=
    ((bare_step react).iterate_right n ⟨(s, []), script, .tick⟩).symm
  refine ⟨hconserves, ?_⟩
  rw [run?_eq, hbare, ← hconserves.ended]
  rfl

end FloatingPanels.EventLoop

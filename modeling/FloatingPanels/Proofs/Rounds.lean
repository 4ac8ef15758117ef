import FloatingPanels.Proofs.Run
/-!
# Rounds

Where a creation is the only one that still goes on, a pause of its construction hook
leads through the rounds of all that waits for it and back to the hook, with nothing
done in between.
-/

namespace FloatingPanels

/-- A desktop that has all the windows with handlers leaves the handlers as they are. -/
theorem Session.withDesktop_of_live {s : Session} {d : Desktop} (h : ∀ l, s.switchboard.has l → d.isLive l.id) :
    s.withDesktop d = ⟨d, s.switchboard⟩ := by
  obtain ⟨d₀, sw⟩ := s
  have hkeep : (sw.handlers.filter fun e => e.1.id ∉ d₀.ids.filter fun id => !d.isLive id) = sw.handlers := by
    refine List.filter_eq_self.2 fun e he => decide_eq_true fun hm => ?_
    have hl := h e.1 ((Keyed.hasKey_iff _ _).2 (List.mem_map_of_mem he))
    simpa [hl] using (List.mem_filter.1 hm).2
  simp only [withDesktop, Switchboard.forget, hkeep]

namespace Slot

def isEnded : Slot → Bool
  | .ended _ => true
  | _ => false

/-- Slots of which one has not ended have no results. -/
theorem results_append_cons {s : Slot} (hs : s.isEnded = false) (before after : List Slot) :
    Slot.results (before ++ s :: after) = none := by
  induction before with
  | nil =>
    cases s with
    | ended r => cases hs
    | _ => rfl
  | cons t before ih =>
    cases t with
    | ended r => rw [List.cons_append, Slot.results, ih]; rfl
    | _ => rfl

theorem results_ended (rs : List Created) : Slot.results (rs.map .ended) = some rs := by
  induction rs with
  | nil => rfl
  | cons r rs ih => rw [List.map_cons, Slot.results, ih]; rfl

end Slot

/-- Whether all other creations of the rounds that wait have ended, up to code that is
not interrupted. -/
def Waiting.alone : List Waiting → Bool
  | .hook _ _ r :: stack => r.before.all Slot.isEnded && r.after.all Slot.isEnded && alone stack
  | _ => true

namespace Machine

variable {m m' m'' : Machine} {s : Session} {stack : List Waiting}

/-- Steps lead from one moment to another. -/
def Leads (m m' : Machine) : Prop := ∃ n, step^[n] m = m'

theorem Leads.refl (m : Machine) : m.Leads m := ⟨0, rfl⟩

theorem Leads.trans (h : m.Leads m') (h' : m'.Leads m'') : m.Leads m'' := by
  obtain ⟨n, rfl⟩ := h
  obtain ⟨k, rfl⟩ := h'
  exact ⟨k + n, Function.iterate_add_apply step k n m⟩

theorem leads_step (m : Machine) : m.Leads m.step := ⟨1, rfl⟩

/-! ## The beginning and the end of a request -/

theorem step_create (s : Session) (stack : List Waiting) (creations : List Creation) (next : List Created → Program) :
    step ⟨s, .run (.create creations next), stack⟩ = ⟨s, .turn ⟨[], creations.map .waiting, next⟩, stack⟩ := rfl

theorem step_results (s : Session) (stack : List Waiting) (answers : List Created) (next : List Created → Program) :
    step ⟨s, .turn ⟨answers.map .ended, [], next⟩, stack⟩ = ⟨s, .run (next answers), stack⟩ := by
  simp only [step, turn, Slot.results_ended]
  rfl

/-! ## The turn of a creation -/

section

variable {d d' : Desktop} {sw : Switchboard} {c : Creation} {id : WindowId} {r : Round}
variable (hsub : ∀ l, sw.has l → d'.isLive l.id)
include hsub

theorem step_unbuilt {before after : List Slot} {next : List Created → Program} {e : CreateError}
    (h : d.instantiate c.spec = (d', .error e)) :
    step ⟨⟨d, sw⟩, .turn ⟨before, .waiting c :: after, next⟩, stack⟩ =
      ⟨⟨d', sw⟩, .turn (Round.had ⟨before, after, next⟩ (.ended (.error e))), stack⟩ := by
  simp only [step, turn, desktop, h, withDesktop, Session.withDesktop_of_live (s := ⟨d, sw⟩) hsub]
  rfl

theorem step_built {before after : List Slot} {next : List Created → Program}
    (h : d.instantiate c.spec = (d', .ok id)) :
    step ⟨⟨d, sw⟩, .turn ⟨before, .waiting c :: after, next⟩, stack⟩ =
      ⟨⟨d', sw⟩, .run (c.hook id), .hook c id ⟨before, after, next⟩ :: stack⟩ := by
  simp only [step, turn, desktop, h, withDesktop, Session.withDesktop_of_live (s := ⟨d, sw⟩) hsub]

theorem step_declined {v : Verdict} {e : CreateError} (h : d.concludeHook id c.spec.kind v = (d', some e)) :
    step ⟨⟨d, sw⟩, .run (.done v), .hook c id r :: stack⟩ = ⟨⟨d', sw⟩, .turn (r.had (.ended (.error e))), stack⟩ := by
  simp only [step, request, programEnded, hookEnded, desktop, h, withDesktop,
    Session.withDesktop_of_live (s := ⟨d, sw⟩) hsub]
  rfl

/-- A hook that accepts, with nothing to run after it. -/
theorem iterate_accepted {v v' : Verdict} {result : Created} (h : d.concludeHook id c.spec.kind v = (d, none))
    (hpost : c.post id = .done v') (hc : d.complete id c.spec = (d', result)) :
    step^[2] ⟨⟨d, sw⟩, .run (.done v), .hook c id r :: stack⟩ = ⟨⟨d', sw⟩, .turn (r.had (.ended result)), stack⟩ := by
  have hsame : Session.withDesktop ⟨d, sw⟩ d = ⟨d, sw⟩ := withDesktop_self ⟨d, sw⟩
  have hhook : step ⟨⟨d, sw⟩, .run (.done v), .hook c id r :: stack⟩ =
      ⟨⟨d, sw⟩, .run (.done v'), .post c id r :: stack⟩ := by
    simp only [step, request, programEnded, hookEnded, desktop, h, withDesktop, hsame, hpost]
  rw [Function.iterate_succ_apply, hhook, Function.iterate_one]
  simp only [step, request, programEnded, postEnded, desktop, hc, withDesktop,
    Session.withDesktop_of_live (s := ⟨d, sw⟩) hsub]
  rfl

theorem leads_accepted {v v' : Verdict} {result : Created} (h : d.concludeHook id c.spec.kind v = (d, none))
    (hpost : c.post id = .done v') (hc : d.complete id c.spec = (d', result)) :
    Leads ⟨⟨d, sw⟩, .run (.done v), .hook c id r :: stack⟩ ⟨⟨d', sw⟩, .turn (r.had (.ended result)), stack⟩ :=
  ⟨2, iterate_accepted hsub h hpost hc⟩

end

/-! ## The next round -/

/-- Creations that have ended are passed over. -/
theorem leads_ended (s : Session) (stack : List Waiting) {slots : List Slot} (h : slots.all Slot.isEnded)
    (before after : List Slot) (next : List Created → Program) :
    Leads ⟨s, .turn ⟨before, slots ++ after, next⟩, stack⟩ ⟨s, .turn ⟨before ++ slots, after, next⟩, stack⟩ := by
  induction slots generalizing before with
  | nil => simpa using Leads.refl _
  | cons slot slots ih =>
    rw [List.all_cons, Bool.and_eq_true] at h
    cases slot with
    | ended r =>
      have ih := ih h.2 (before ++ [.ended r])
      rw [List.append_assoc] at ih
      exact (leads_step _).trans ih
    | _ => cases h.1

theorem step_over (s : Session) (stack : List Waiting) {slots : List Slot} (hs : Slot.results slots = none)
    (next : List Created → Program) : step ⟨s, .turn ⟨slots, [], next⟩, stack⟩ =
      roundEnded ⟨s, .turn ⟨slots, [], next⟩, stack⟩ ⟨slots, [], next⟩ := by
  simp only [step, turn, hs]

/-- From such a round the next one follows, whatever waits for it. -/
def Repeats (s : Session) (stack : List Waiting) : Prop :=
  ∀ slots next, Slot.results slots = none →
    Leads ⟨s, .turn ⟨slots, [], next⟩, stack⟩ ⟨s, .turn (.first slots next), stack⟩

/-- Where all others have ended, what has had its turn comes to its next one. -/
theorem Repeats.around (h : Repeats s stack) {r : Round} (hbefore : r.before.all Slot.isEnded)
    (hafter : r.after.all Slot.isEnded) {x : Slot} (hx : x.isEnded = false) :
    Leads ⟨s, .turn (r.had x), stack⟩ ⟨s, .turn ⟨r.before, x :: r.after, r.next⟩, stack⟩ := by
  have hrest := leads_ended s stack hafter (r.before ++ [x]) [] r.next
  rw [List.append_nil, List.append_assoc, List.singleton_append] at hrest
  exact (hrest.trans (h _ _ (Slot.results_append_cons hx r.before r.after))).trans
    (leads_ended s stack hbefore [] (x :: r.after) r.next)

/-- A hook that waits pauses with the round that is over, and goes on with the next. -/
theorem repeats_of_alone (h : Waiting.alone stack) : Repeats s stack := by
  induction stack with
  | nil => exact fun slots next hs => ⟨1, step_over s [] hs next⟩
  | cons w stack ih =>
    intro slots next hs
    have hstep := step_over s (w :: stack) hs next
    cases w with
    | post c id r => exact ⟨1, hstep⟩
    | call l h d => exact ⟨1, hstep⟩
    | hook c id outer =>
      simp only [Waiting.alone, Bool.and_eq_true] at h
      obtain ⟨⟨hbefore, hafter⟩, hstack⟩ := h
      have hout : Leads ⟨s, .turn ⟨slots, [], next⟩, .hook c id outer :: stack⟩
          ⟨s, .turn (outer.had (.awaiting c id slots next)), stack⟩ := ⟨1, hstep⟩
      exact (hout.trans ((ih hstack).around hbefore hafter rfl)).trans (leads_step _)

/-- A hook whose creation is the only one that goes on pauses for itself alone. -/
theorem leads_pause {c : Creation} {id : WindowId} {r : Round} (h : Waiting.alone (.hook c id r :: stack))
    (rest : Program) :
    Leads ⟨s, .run (.pause rest), .hook c id r :: stack⟩ ⟨s, .run rest, .hook c id r :: stack⟩ := by
  simp only [Waiting.alone, Bool.and_eq_true] at h
  obtain ⟨⟨hbefore, hafter⟩, hstack⟩ := h
  have hout : Leads ⟨s, .run (.pause rest), .hook c id r :: stack⟩ ⟨s, .turn (r.had (.paused c id rest)), stack⟩ :=
    leads_step _
  exact (hout.trans ((repeats_of_alone hstack).around hbefore hafter rfl)).trans (leads_step _)

end Machine

end FloatingPanels

import FloatingPanels.Proofs.Desktop.Company
import FloatingPanels.Proofs.Rounds
import FloatingPanels.Proofs.Stacking
/-!
# Failed creations

A creation fails when its window cannot be built, or when its construction hook does not
accept. If the hook did nothing else, `run_failed_creation` says that the window is gone
without a trace, but for its number and the address that it had claimed: that belongs to
nobody then, also where another window had owned it before.
-/

namespace FloatingPanels

/-- A desktop is as it was before a creation that failed. Windows have been counted, a
template may have been parsed, and nobody owns the address that the creation asked for. -/
structure Desktop.Untouched (d d' : Desktop) (address : Option String) : Prop where
  same : d' = { d with library := d'.library, issued := d'.issued, addresses := d'.addresses }
  library : d.library.Alike d'.library
  issued : d'.issued = d.issued ∨ d'.issued = d.issued + 1
  byAddress : ∀ a, (address = some a → d.byAddress a = none) → d'.byAddress a = d.byAddress a

namespace Desktop

variable {d d₁ : Desktop} {spec : WindowSpec} {id : WindowId}

theorem Untouched.isLive {address : Option String} (h : d.Untouched d₁ address) (i : WindowId) :
    d₁.isLive i = d.isLive i := by
  rw [h.same]
  rfl

/-- The address of a window that is gone belongs to nobody; all others have their owners. -/
theorem Sound.byAddress_declined (hs : d.Sound) (hid : d.isLive id = false) (address : Option String) (a : String)
    (ha : address = some a → d.byAddress a = none) :
    Keyed.value? ((match address with
      | some address => Keyed.set address id d.addresses
      | none => d.addresses).filter fun e => e.2 ≠ id) a = d.byAddress a := by
  have hkeep : (d.byAddress a).filter (· ≠ id) = d.byAddress a := by
    cases ho : d.byAddress a with
    | none => rfl
    | some i =>
      refine Option.filter_some_pos (decide_eq_true ?_)
      rintro rfl
      obtain ⟨e, he, hei, -⟩ := hs.addresses _ (Keyed.mem_of_value? ho)
      rw [isLive_iff.2 ⟨e, he, hei⟩] at hid
      cases hid
  cases address with
  | none => exact (Keyed.value?_filter_value hs.addressKeys (· ≠ id) a).trans hkeep
  | some address =>
    refine (Keyed.value?_filter_value (Keyed.nodup_keys_set hs.addressKeys) (· ≠ id) a).trans ?_
    rw [Keyed.value?_set]
    split
    · rename_i heq
      rw [ha (by rw [heq])]
      simp
    · exact hkeep

/-- Where no window can be built, a template may have been parsed. -/
theorem untouched_unbuilt {e : CreateError} (h : d.instantiate spec = (d₁, .error e)) : d.Untouched d₁ spec.address := by
  have hbuild := d.instantiate_joinedBy [] spec
  rw [joinedBy_nil, h] at hbuild
  rcases d.fresh_cases spec with ⟨library, e', ha, hfresh⟩ | ⟨library, w, ha, hw, hfresh⟩
  · rw [hfresh] at hbuild
    obtain rfl : d₁ = { d with library } := by simpa using congrArg Prod.fst hbuild
    exact ⟨rfl, ha, .inl rfl, fun _ _ => rfl⟩
  · rw [hfresh] at hbuild
    cases congrArg Prod.snd hbuild

/-- A window that was built and not accepted is gone, and the desktop is as it was. -/
theorem untouched_declined (hs : d.Sound) {s : Stack} (hst : d.StackedAs s) (h : d.instantiate spec = (d₁, .ok id))
    {v : Verdict} (hv : v ≠ .ok true) :
    (∀ i, d.isLive i → d₁.isLive i) ∧
      ∃ d₂ e, d₁.concludeHook id spec.kind v = (d₂, some e) ∧ d.Untouched d₂ spec.address := by
  have hbuild := d.instantiate_joinedBy [] spec
  rw [joinedBy_nil, h] at hbuild
  rcases d.fresh_cases spec with ⟨library, e', ha, hfresh⟩ | ⟨library, w, ha, hw, hfresh⟩
  · rw [hfresh] at hbuild
    cases congrArg Prod.snd hbuild
  · rw [hfresh] at hbuild
    generalize hb : ({ d with library, issued := d.issued + 1, addresses := _ } : Desktop) = b at hbuild
    obtain ⟨rfl, hid⟩ : d₁ = b.joinedBy [w] ∧ id = w.id := by simpa using hbuild
    have hcompany : b.Company ([] ++ w :: []) := hb ▸ ((hs.company hst).add hw).congr rfl rfl rfl rfl rfl
    obtain ⟨e, he⟩ : ∃ e, declined spec.kind v = some e := by
      rcases v with _ | _ | _
      · exact ⟨_, rfl⟩
      · exact ⟨_, rfl⟩
      · exact absurd rfl hv
    have hend := hcompany.concludeHook hw.constructed spec.kind v
    rw [he, Option.isSome_some, if_pos rfl, List.nil_append, List.nil_append, joinedBy_nil, ← hid] at hend
    refine ⟨fun i hi => isLive_joinedBy.2 (.inl (hb ▸ hi)), _, e, hend, ?_⟩
    have hnew : d.isLive id = false := by
      rw [hid, hw.id]
      exact hs.isLive_new
    have howner := hs.byAddress_declined hnew spec.address
    rw [hid] at howner ⊢
    subst hb
    exact ⟨rfl, ha, .inr rfl, howner⟩

end Desktop

/-- A construction hook that asks for nothing but to look at the desktop, and does not
accept. It may pause only if that is said. -/
inductive Program.Declines (mayPause : Bool) : Program → Prop
  | done {v : Verdict} (hv : v ≠ .ok true) : Declines mayPause (.done v)
  | look {next : Desktop → Program} (h : ∀ d, Declines mayPause (next d)) : Declines mayPause (.look next)
  | pause {rest : Program} (hp : mayPause) (h : Declines mayPause rest) : Declines mayPause (.pause rest)

theorem Machine.leads_decline {p : Program} {mayPause : Bool} (h : p.Declines mayPause) (s : Session) (c : Creation)
    (id : WindowId) (r : Round) (stack : List Waiting) (hp : mayPause → Waiting.alone (.hook c id r :: stack)) :
    ∃ v, v ≠ .ok true ∧
      Leads ⟨s, .run p, .hook c id r :: stack⟩ ⟨s, .run (.done v), .hook c id r :: stack⟩ := by
  induction h with
  | done hv => exact ⟨_, hv, .refl _⟩
  | look _ ih =>
    obtain ⟨v, hv, hl⟩ := ih s.desktop
    exact ⟨v, hv, (leads_step _).trans hl⟩
  | pause hpause _ ih =>
    obtain ⟨v, hv, hl⟩ := ih
    exact ⟨v, hv, (leads_pause (hp hpause) _).trans hl⟩

variable {d₀ : Desktop} {m : Machine} {ms : List Machine}

/-- A creation whose window cannot be built, or whose hook does nothing and does not
accept, answers an error and leaves all others as they were. -/
theorem run_failed_creation (h₀ : d₀.IsNew) (h : Run d₀ (m :: ms)) {c : Creation} {before after : List Slot}
    {next : List Created → Program} (hm : m.phase = .turn ⟨before, .waiting c :: after, next⟩)
    (hf : (∃ e, (m.desktop.instantiate c.spec).2 = .error e) ∨
      ∀ id, (c.hook id).Declines (before.all Slot.isEnded && after.all Slot.isEnded && Waiting.alone m.stack)) :
    ∃ d e, m.desktop.Untouched d c.spec.address ∧
      m.Leads ⟨⟨d, m.session.switchboard⟩, .turn ⟨before ++ [.ended (.error e)], after, next⟩, m.stack⟩ := by
  have hs := run_sound h₀ h
  have hst := run_stackedAs h₀ h
  have hsub := run_subscribed h
  obtain ⟨⟨d, sw⟩, phase, stack⟩ := m
  obtain rfl : phase = _ := hm
  replace hsub : ∀ l, sw.has l → d.isLive l.id := hsub
  replace hf : (∃ e, (d.instantiate c.spec).2 = .error e) ∨ ∀ id, (c.hook id).Declines _ := hf
  cases hbuild : d.instantiate c.spec with
  | mk d₁ result =>
    rw [hbuild] at hf
    cases result with
    | error e =>
      have hu := Desktop.untouched_unbuilt hbuild
      have hlive : ∀ l, sw.has l → d₁.isLive l.id := fun l hl => (hu.isLive l.id).trans (hsub l hl)
      exact ⟨d₁, e, hu, 1, Machine.step_unbuilt hlive hbuild⟩
    | ok id =>
      obtain ⟨v, hv, hhook⟩ := Machine.leads_decline (hf.resolve_left nofun id) ⟨d₁, sw⟩ c id ⟨before, after, next⟩
        stack (by simp [Waiting.alone])
      obtain ⟨hlive₁, d₂, e, hend, hu⟩ := Desktop.untouched_declined hs hst hbuild hv
      have hlive₂ : ∀ l, sw.has l → d₂.isLive l.id := fun l hl => (hu.isLive l.id).trans (hsub l hl)
      have hstart : Machine.step ⟨⟨d, sw⟩, .turn ⟨before, .waiting c :: after, next⟩, stack⟩ =
          ⟨⟨d₁, sw⟩, .run (c.hook id), .hook c id ⟨before, after, next⟩ :: stack⟩ :=
        Machine.step_built (fun l hl => hlive₁ l.id (hsub l hl)) hbuild
      exact ⟨d₂, e, hu, .trans ⟨1, hstart⟩ (hhook.trans ⟨1, Machine.step_declined hlive₂ hend⟩)⟩

/-- A window with an address whose construction hook pauses and then rejects. -/
def Creation.rejecting : Creation :=
  .mk { kind := "note", address := some "a" } (fun _ => .pause .reject) fun _ => .accept

/-- A host that creates a window, and then one that is rejected. -/
def createAndReject : Program :=
  .create [.passive { kind := "note" }] fun _ => .create [.rejecting] fun _ => .accept

theorem run_failed_creation_createAndReject :
    let m := Machine.step^[6] (.start { desktop := .plain } createAndReject)
    m.phase = .turn ⟨[], [.waiting .rejecting], fun _ => .accept⟩ ∧
      ∃ d e, m.desktop.Untouched d (some "a") ∧
        m.Leads ⟨⟨d, m.session.switchboard⟩, .turn ⟨[.ended (.error e)], [], fun _ => .accept⟩, m.stack⟩ := by
  intro m
  have hm : m.phase = .turn ⟨[], [.waiting .rejecting], fun _ => .accept⟩ := rfl
  have halone : ([].all Slot.isEnded && [].all Slot.isEnded && Waiting.alone m.stack) = true := rfl
  exact ⟨hm, run_failed_creation Desktop.isNew_plain (Run.moments createAndReject 6) hm
    (.inr fun _ => .pause halone (.done nofun))⟩

/-- A host that creates a window with an address, and then one that is to have the same
address and is rejected. -/
def claimTwice : Program :=
  .create [.passive { kind := "note", address := some "a" }] fun _ => .create [.rejecting] fun _ => .accept

/-- The first window loses its address to the one that is rejected, and does not get it
back. -/
theorem run_failed_creation_claimTwice :
    let m := Machine.step^[6] (.start { desktop := .plain } claimTwice)
    Run .plain (Machine.moments (.start { desktop := .plain } claimTwice) 6) ∧
      m.phase = .turn ⟨[], [.waiting .rejecting], fun _ => .accept⟩ ∧ m.desktop.byAddress "a" = some ⟨1⟩ ∧
      ∃ n, (Machine.step^[n] m).phase = .turn ⟨[.ended (.error (.rejected "note"))], [], fun _ => .accept⟩ ∧
        (Machine.step^[n] m).desktop.byAddress "a" = none := by
  intro m
  exact ⟨Run.moments claimTwice 6, rfl, by decide +kernel, 5, rfl, by decide +kernel⟩

end FloatingPanels

import FloatingPanels.Proofs.Integrity
import FloatingPanels.Proofs.Touch
/-!
# Owners of addresses

A desktop keeps a table of the owners of addresses, and each window the address that it
claimed last. The two are not each other's mirror: a window that has lost its address to
another still holds it as its own. `run_ownership` says whom an address leads to after
any history of claims: to the last window that claimed it, as long as that is live and has
not claimed another since.
-/

namespace FloatingPanels

/-! ## Histories of claims -/

/-- The claim that comes with the next step. -/
def Machine.claim? (m : Machine) : Option Claim := m.desktop.claims m.task

/-- The claims of a run, the latest first. -/
def claimHistory : List Machine → List Claim := Run.trace (fun m _ l => m.claim?.toList ++ l) []

/-- A window made the latest claim of an address, and has claimed no other since. -/
def Owns (l : List Claim) (address : String) (id : WindowId) : Prop :=
  ∃ later earlier, l = later ++ ⟨address, id⟩ :: earlier ∧ (∀ c ∈ later, c.address ≠ address) ∧
    ∀ c ∈ later, c.id = id → c.address = address

/-- The window that made the latest claim of an address. -/
def claimant? (l : List Claim) (address : String) : Option WindowId :=
  (l.find? fun c => c.address = address).map Claim.id

/-- The address that a window claimed last. -/
def lastClaim? (l : List Claim) (id : WindowId) : Option String := (l.find? fun c => c.id = id).map Claim.address

theorem claimant?_cons (c : Claim) (l : List Claim) (address : String) :
    claimant? (c :: l) address = if c.address = address then some c.id else claimant? l address := by
  by_cases h : c.address = address <;> simp [claimant?, h]

theorem lastClaim?_cons (c : Claim) (l : List Claim) (id : WindowId) :
    lastClaim? (c :: l) id = if c.id = id then some c.address else lastClaim? l id := by
  by_cases h : c.id = id <;> simp [lastClaim?, h]

theorem mem_of_claimant? {l : List Claim} {address : String} {id : WindowId} (h : claimant? l address = some id) :
    ∃ c ∈ l, c.id = id := by
  obtain ⟨c, hc, rfl⟩ := Option.map_eq_some_iff.1 h
  exact ⟨c, List.mem_of_find?_eq_some hc, rfl⟩

/-- What is claimed of an address or by a window later than all else decides. -/
theorem owns_cons {c : Claim} {l : List Claim} {address : String} {id : WindowId} :
    Owns (c :: l) address id ↔ c = ⟨address, id⟩ ∨ c.address ≠ address ∧ c.id ≠ id ∧ Owns l address id := by
  constructor
  · rintro ⟨later, earlier, hl, haddress, hid⟩
    cases later with
    | nil => exact .inl (List.cons.inj hl).1
    | cons x later =>
      obtain ⟨rfl, rfl⟩ := List.cons.inj hl
      have hne := haddress c List.mem_cons_self
      exact .inr ⟨hne, fun h => hne (hid c List.mem_cons_self h), later, earlier, rfl,
        fun x hx => haddress x (List.mem_cons_of_mem _ hx), fun x hx => hid x (List.mem_cons_of_mem _ hx)⟩
  · rintro (rfl | ⟨haddress, hid, later, earlier, rfl, hall, hown⟩)
    · exact ⟨[], l, rfl, nofun, nofun⟩
    · refine ⟨c :: later, earlier, rfl, List.forall_mem_cons.2 ⟨haddress, hall⟩, ?_⟩
      exact List.forall_mem_cons.2 ⟨fun h => absurd h hid, hown⟩

theorem owns_iff (l : List Claim) (address : String) (id : WindowId) :
    Owns l address id ↔ claimant? l address = some id ∧ lastClaim? l id = some address := by
  induction l with
  | nil =>
    constructor
    · rintro ⟨later, earlier, h, -⟩
      cases later <;> cases h
    · rintro ⟨h, -⟩
      cases h
  | cons c l ih =>
    obtain ⟨a, i⟩ := c
    rw [owns_cons, ih, claimant?_cons, lastClaim?_cons]
    by_cases ha : a = address <;> by_cases hi : i = id <;> simp [ha, hi]

/-! ## The table against the history -/

namespace Desktop

variable {d d' : Desktop} {l : List Claim}

/-- What the owners of addresses and the addresses that windows hold have to do with a
history of claims. -/
structure Ledger (d : Desktop) (l : List Claim) : Prop where
  issued : ∀ c ∈ l, c.id.number ≤ d.issued
  /-- A live window holds the address that it claimed last. -/
  own : ∀ id o, d.own? id = some o → lastClaim? l id = o
  /-- It owns that address if nobody else has claimed it since. -/
  owner : ∀ address id, d.byAddress address = some id ↔
    claimant? l address = some id ∧ d.own? id = some (some address)

/-- The number of the next new window is in no claim. -/
theorem Ledger.ne_new (h : Ledger d l) {c : Claim} (hc : c ∈ l) : c.id ≠ ⟨d.issued + 1⟩ := by
  intro hid
  have := h.issued c hc
  rw [hid] at this
  exact Nat.not_succ_le_self _ this

theorem Ledger.lastClaim?_new (h : Ledger d l) : lastClaim? l ⟨d.issued + 1⟩ = none :=
  Option.map_eq_none_iff.2 (List.find?_eq_none.2 fun _ hc hid => h.ne_new hc (of_decide_eq_true hid))

theorem Ledger.byAddress_new (h : Ledger d l) (address : String) :
    (d.byAddress address).filter (· ≠ ⟨d.issued + 1⟩) = d.byAddress address := by
  cases ho : d.byAddress address with
  | none => rfl
  | some i =>
    obtain ⟨c, hc, rfl⟩ := mem_of_claimant? ((h.owner address i).1 ho).1
    exact Option.filter_some_pos (decide_eq_true (h.ne_new hc))

/-- A window that gives up its address takes it from nobody else. -/
theorem Sound.value?_addressesWithout (hs : Sound d) {w : Window} (hw : w ∈ d.windows) (address : String) :
    (d.addressesWithout w).value? address = (d.byAddress address).filter (· ≠ w.id) := by
  refine Option.ext fun i => ?_
  rw [Option.filter_eq_some_iff, decide_eq_true_iff]
  constructor
  · intro h
    obtain ⟨hm, hne⟩ := hs.mem_addressesWithout hw (Keyed.mem_of_value? h)
    exact ⟨Keyed.value?_of_mem hs.addressKeys hm, hne⟩
  · rintro ⟨h, hne⟩
    unfold addressesWithout
    split
    · rename_i old _
      split
      · rename_i hold
        rw [Keyed.value?_remove, if_neg]
        · exact h
        · rintro rfl
          rw [hold] at h
          exact hne (Option.some.inj h).symm
      · exact h
    · exact h

/-- A window claims an address, and gives up any other. -/
theorem Ledger.claimed (h : Ledger d l) {id : WindowId} {address : String} (hid : id.number ≤ d'.issued)
    (hi : d.issued ≤ d'.issued) (ho : ∀ i, d'.own? i = if i = id then some (some address) else d.own? i)
    (ha : ∀ a, d'.byAddress a = if address = a then some id else (d.byAddress a).filter (· ≠ id)) :
    Ledger d' (⟨address, id⟩ :: l) where
  issued := List.forall_mem_cons.2 ⟨hid, fun c hc => (h.issued c hc).trans hi⟩
  own i o hio := by
    rw [ho] at hio
    rw [lastClaim?_cons]
    by_cases hii : i = id
    · rw [if_pos hii] at hio
      rw [if_pos hii.symm]
      exact Option.some.inj hio
    · rw [if_neg hii] at hio
      rw [if_neg (Ne.symm hii)]
      exact h.own i o hio
  owner a i := by
    rw [ha, claimant?_cons, ho]
    by_cases haa : address = a
    · subst haa
      by_cases hii : i = id <;> simp [hii, Ne.symm]
    · rw [if_neg haa, if_neg haa, Option.filter_eq_some_iff, h.owner, decide_eq_true_iff]
      by_cases hii : i = id <;> simp [hii, haa]

/-- A window comes without an address or goes, and with it what it owned. -/
theorem Ledger.unclaimed (h : Ledger d l) (id : WindowId) (hi : d.issued ≤ d'.issued)
    (ho : ∀ i, i ≠ id → d'.own? i = d.own? i) (hid : ∀ o, d'.own? id = some o → o = none ∧ lastClaim? l id = none)
    (ha : ∀ a, d'.byAddress a = (d.byAddress a).filter (· ≠ id)) : Ledger d' l where
  issued c hc := (h.issued c hc).trans hi
  own i o hio := by
    by_cases hii : i = id
    · subst hii
      obtain ⟨rfl, hl⟩ := hid o hio
      exact hl
    · exact h.own i o (ho i hii ▸ hio)
  owner a i := by
    rw [ha, Option.filter_eq_some_iff, h.owner, decide_eq_true_iff]
    by_cases hii : i = id
    · subst hii
      simp only [ne_eq, not_true_eq_false, and_false, false_iff, not_and]
      intro _ hio
      cases (hid _ hio).1
    · rw [ho i hii]
      simp [hii]

theorem Ledger.next (h : Ledger d l) (hs : Sound d) {raised : Option WindowId} {added : Option (WindowId × String)}
    {c : Option Claim} (he : Effect d d' raised added) (hc : AddressStep d d' c) : Ledger d' (c.toList ++ l) := by
  have hi : d.issued ≤ d'.issued := by
    rw [he.issued.1]
    exact Nat.le_add_right _ _
  cases hc with
  | keep ho ha =>
    refine ⟨fun c hc => (h.issued c hc).trans hi, fun i o hio => h.own i o (ho i ▸ hio), fun a i => ?_⟩
    rw [byAddress, ha, ho]
    exact h.owner a i
  | @claim w hw address ho ha =>
    have hm := (mem_of_window? hw).1
    refine h.claimed ((hs.issued w.entry (List.mem_map_of_mem hm)).trans hi) hi ho fun a => ?_
    rw [byAddress, ha, Keyed.value?_set, hs.value?_addressesWithout hm]
  | add address ha ho =>
    cases address with
    | none =>
      refine h.unclaimed ⟨d.issued + 1⟩ hi (fun i hii => ?_) (fun o hio => ?_) fun a => ?_
      · rw [ho, if_neg hii]
      · rw [ho, if_pos rfl] at hio
        exact ⟨(Option.some.inj hio).symm, h.lastClaim?_new⟩
      · rw [h.byAddress_new]
        exact congrArg (Keyed.value? · a) ha
    | some address =>
      have hlive : d'.isLive ⟨d.issued + 1⟩ := by
        have := congrArg Option.isSome (ho ⟨d.issued + 1⟩)
        rwa [if_pos rfl, own?, Option.isSome_map] at this
      obtain ⟨e, hm, hid⟩ := isLive_iff.1 hlive
      refine h.claimed (hid ▸ (he.sound hs).issued e hm) hi ho fun a => ?_
      rw [h.byAddress_new, byAddress, ha, Keyed.value?_set, byAddress]
  | @remove w hw ho ha =>
    refine h.unclaimed w.id hi (fun i hii => ?_) (fun o hio => ?_) fun a => ?_
    · rw [ho, if_neg hii]
    · rw [ho, if_pos rfl] at hio
      cases hio
    · rw [byAddress, ha]
      exact Keyed.value?_filter_value hs.addressKeys (· ≠ w.id) a

theorem Ledger.byAddress_iff (h : Ledger d l) (address : String) (id : WindowId) :
    d.byAddress address = some id ↔ Owns l address id ∧ d.isLive id := by
  rw [h.owner, owns_iff, and_assoc]
  refine and_congr_right fun _ => ?_
  constructor
  · intro ho
    have hl := congrArg Option.isSome ho
    rw [own?, Option.isSome_map] at hl
    exact ⟨h.own id _ ho, hl⟩
  · rintro ⟨hl, hlive⟩
    obtain ⟨w, hw⟩ := exists_window hlive
    have ho : d.own? id = some w.address := by rw [own?, hw, Option.map_some]
    rw [ho, ← h.own id _ ho, hl]

end Desktop

/-! ## Runs -/

/-- Whom the addresses lead to at a moment with this history of claims. -/
structure Ownership (m : Machine) (l : List Claim) : Prop where
  owner : ∀ address id, m.desktop.byAddress address = some id ↔ Owns l address id ∧ m.desktop.isLive id
  /-- A live owner stays the owner, unless the next step is its own claim of another
  address or another window's claim of this one. -/
  undisturbed : ∀ {m'}, m.Next m' → ∀ {address id}, m.desktop.byAddress address = some id → m'.desktop.isLive id →
    (∀ c ∈ m.claim?, c.address = address ↔ c.id = id) → m'.desktop.byAddress address = some id

variable {d₀ : Desktop} {m : Machine} {ms : List Machine}

theorem Desktop.IsNew.ledger (h : d₀.IsNew) : d₀.Ledger [] := by
  refine ⟨fun c hc => ?_, fun id o ho => ?_, fun address id => ⟨fun hb => ?_, fun hc => ?_⟩⟩
  · cases hc
  · rw [Desktop.own?, Desktop.window?, h.windows] at ho
    cases ho
  · rw [Desktop.byAddress, h.addresses] at hb
    cases hb
  · cases hc.1

theorem Machine.next_ledger {m' : Machine} {l : List Claim} (hn : m.Next m') (hs : m.desktop.Sound)
    (h : m.desktop.Ledger l) : m'.desktop.Ledger (m.claim?.toList ++ l) := by
  refine h.next hs (next_desktop hn hs) ?_
  cases hn with
  | step =>
    rw [step_task]
    exact (Desktop.carryOut_touch hs m.task).address
  | again p hm =>
    obtain ⟨s, phase, stack⟩ := m
    cases phase with
    | stop v => exact .keep (fun _ => rfl) rfl
    | _ => cases hm

theorem run_ledger (h₀ : d₀.IsNew) (h : Run d₀ (m :: ms)) : m.desktop.Ledger (claimHistory (m :: ms)) := by
  have hinv := h.trace_inv (f := fun m _ l => m.claim?.toList ++ l) (b := [])
    (P := fun m l => m.desktop.Sound ∧ m.desktop.Ledger l) (fun _ => ⟨h₀.sound, h₀.ledger⟩) ?_
  · exact hinv.2
  · rintro m m' l hn ⟨hs, hl⟩
    exact ⟨(Machine.next_desktop hn hs).sound hs, Machine.next_ledger hn hs hl⟩

/-- At every moment of every run an address leads to the window that claimed it last, if
that is live and has claimed no other since, and else to none. -/
theorem run_ownership (h₀ : d₀.IsNew) (h : Run d₀ (m :: ms)) : Ownership m (claimHistory (m :: ms)) := by
  refine ⟨(run_ledger h₀ h).byAddress_iff, fun {m'} hn address id ho hl hc => ?_⟩
  rw [(run_ledger h₀ (h.next hn)).byAddress_iff]
  refine ⟨?_, hl⟩
  have hown := ((run_ledger h₀ h).byAddress_iff address id).1 ho |>.1
  show Owns (m.claim?.toList ++ claimHistory (m :: ms)) address id
  cases hcl : m.claim? with
  | none => exact hown
  | some c =>
    have hc := hc c hcl
    refine owns_cons.2 ?_
    by_cases ha : c.address = address
    · obtain ⟨a, i⟩ := c
      exact .inl (by rw [show a = address from ha, show i = id from hc.1 ha])
    · exact .inr ⟨ha, fun hid => ha (hc.2 hid), hown⟩

/-- A host that creates a window with an address, and another that takes it over. The first
claims one of its own, and the second is destroyed. -/
def takeOver : Program :=
  .create [.passive { kind := "note", address := some "a" }] fun _ =>
    .create [.passive { kind := "note", address := some "a" }] fun _ =>
      .then_ (.setAddress ⟨1⟩ "b") (.then_ (.destroy ⟨2⟩) .accept)

/-- What the first window claims does not take from the second what that has taken over,
and the first does not get it back when the second is gone. -/
theorem run_ownership_takeOver :
    let ms := Machine.moments (.start { desktop := .plain } takeOver)
    Desktop.plain.IsNew ∧ Run .plain (ms 11) ∧
      Ownership (Machine.step^[11] (.start { desktop := .plain } takeOver)) (claimHistory (ms 11)) ∧
      Ownership (Machine.step^[12] (.start { desktop := .plain } takeOver)) (claimHistory (ms 12)) ∧
      claimHistory (ms 12) = [⟨"b", ⟨1⟩⟩, ⟨"a", ⟨2⟩⟩, ⟨"a", ⟨1⟩⟩] ∧
      (Machine.step^[11] (.start { desktop := .plain } takeOver)).desktop.byAddress "a" = some ⟨2⟩ ∧
      (Machine.step^[12] (.start { desktop := .plain } takeOver)).desktop.byAddress "a" = none := by
  intro ms
  exact ⟨Desktop.isNew_plain, Run.moments takeOver 11, run_ownership Desktop.isNew_plain (Run.moments takeOver 11),
    run_ownership Desktop.isNew_plain (Run.moments takeOver 12), by decide +kernel, by decide +kernel, by decide +kernel⟩

end FloatingPanels

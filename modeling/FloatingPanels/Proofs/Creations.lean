import FloatingPanels.Proofs.Integrity
import Mathlib.Algebra.Order.Group.Multiset
import Mathlib.Tactic.Abel
/-!
# How creations end

A creation ends in one of three steps: no window can be built for it, its construction
hook does not lead on, or it is completed. What is underway is counted, so that every
window that was registered is accounted for once. `run_creation` says what holds at the
end of a creation, whatever its hook, its callback and other creations did before: the
answer and the windows there are agree.
-/

namespace FloatingPanels

/-! ## What is underway -/

/-- A creation and the window that was registered for it. -/
abbrev Site := Creation × WindowId

mutual

/-- The creations that have a window and go on in a slot, those inside it included. -/
@[simp] def Slot.sites : Slot → Multiset Site
  | .waiting _ => 0
  | .paused c id _ => {(c, id)}
  | .awaiting c id inner _ => {(c, id)} + Slot.allSites inner
  | .ended _ => 0

@[simp] def Slot.allSites : List Slot → Multiset Site
  | [] => 0
  | s :: slots => s.sites + Slot.allSites slots

end

theorem Slot.allSites_append (slots slots' : List Slot) :
    Slot.allSites (slots ++ slots') = Slot.allSites slots + Slot.allSites slots' := by
  induction slots with
  | nil => simp
  | cons s slots ih => rw [List.cons_append, Slot.allSites, ih, Slot.allSites, add_assoc]

@[simp] theorem Slot.allSites_waiting (creations : List Creation) :
    Slot.allSites (creations.map .waiting) = 0 := by
  induction creations with
  | nil => rfl
  | cons c creations ih => rw [List.map_cons, Slot.allSites, ih, Slot.sites, add_zero]

/-- Creations that have all ended are not underway. -/
theorem Slot.allSites_results {slots : List Slot} {results : List Created} (h : Slot.results slots = some results) :
    Slot.allSites slots = 0 := by
  induction slots generalizing results with
  | nil => rfl
  | cons s slots ih =>
    cases s with
    | ended r =>
      obtain ⟨rest, hrest, -⟩ := Option.map_eq_some_iff.1 h
      rw [Slot.allSites, ih hrest, Slot.sites, add_zero]
    | _ => cases h

def Round.sites (r : Round) : Multiset Site := Slot.allSites r.before + Slot.allSites r.after

namespace Round

@[simp] theorem sites_first (slots : List Slot) (next : List Created → Program) :
    (first slots next).sites = Slot.allSites slots := zero_add _

@[simp] theorem sites_had (r : Round) (s : Slot) : (r.had s).sites = s.sites + r.sites := by
  simp only [sites, had, Slot.allSites_append, Slot.allSites]
  abel

@[simp] theorem sites_nil (before : List Slot) (next : List Created → Program) :
    sites ⟨before, [], next⟩ = Slot.allSites before := add_zero _

@[simp] theorem sites_cons (before : List Slot) (s : Slot) (after : List Slot) (next : List Created → Program) :
    sites ⟨before, s :: after, next⟩ = s.sites + sites ⟨before, after, next⟩ := by
  simp only [sites, Slot.allSites]
  abel

end Round

@[simp] def Waiting.sites : Waiting → Multiset Site
  | .hook c id r | .post c id r => {(c, id)} + r.sites
  | .call _ _ _ => 0

@[simp] def Waiting.allSites (stack : List Waiting) : Multiset Site := (stack.map Waiting.sites).sum

@[simp] def Phase.sites : Phase → Multiset Site
  | .turn r => r.sites
  | _ => 0

/-- The creations that have a window and have not ended. -/
def Machine.sites (m : Machine) : Multiset Site := m.phase.sites + Waiting.allSites m.stack

/-! ## How they begin and end -/

/-- A window is built only in a container. -/
theorem Desktop.resolve_of_ok {d : Desktop} {spec : WindowSpec} {id : WindowId} (h : (d.instantiate spec).2 = .ok id) :
    ∃ container, d.page.resolve spec.parent = some container := by
  cases hr : d.page.resolve spec.parent with
  | none => simp [Desktop.instantiate, hr] at h
  | some container => exact ⟨container, rfl⟩

/-- What comes of a creation: the window that was registered for it, if any, and the
answer. -/
structure Closing where
  creation : Creation
  /-- The round in which it went on, without it. -/
  round : Round
  window : Option WindowId
  answer : Created

def Closing.site? (x : Closing) : Option Site := x.window.map fun id => (x.creation, id)

namespace Machine

/-- The creation for which the next step registers a window. -/
def opening? (m : Machine) : Option Site :=
  match m.phase with
  | .turn ⟨_, .waiting c :: _, _⟩ =>
    match (m.desktop.instantiate c.spec).2 with
    | .ok id => some (c, id)
    | .error _ => none
  | _ => none

/-- The creation that the next step ends. -/
def closing? (m : Machine) : Option Closing :=
  match m.phase, m.stack with
  | .turn ⟨before, .waiting c :: after, next⟩, _ =>
    match (m.desktop.instantiate c.spec).2 with
    | .ok _ => none
    | .error e => some ⟨c, ⟨before, after, next⟩, none, .error e⟩
  | .run (.done v), .hook c id r :: _ =>
    (m.desktop.concludeHook id c.spec.kind v).2.map fun e => ⟨c, r, some id, .error e⟩
  | .run (.done _), .post c id r :: _ => some ⟨c, r, some id, (m.desktop.complete id c.spec).2⟩
  | _, _ => none

/-- The site that the next step gives up. -/
def closed? (m : Machine) : Option Site := m.closing?.bind Closing.site?

/-- A step that neither begins nor ends a creation. -/
theorem sites_still {m m' : Machine} (ho : m.opening? = none) (hc : m.closing? = none) (h : m'.sites = m.sites) :
    m'.sites + Multiset.ofList m.closed?.toList = m.sites + Multiset.ofList m.opening?.toList := by
  rw [h, closed?, ho, hc]
  rfl

/-- A step that ends a creation and begins none. -/
theorem sites_ended {m m' : Machine} {x : Closing} (ho : m.opening? = none) (hc : m.closing? = some x)
    (h : m.sites = m'.sites + Multiset.ofList x.site?.toList) :
    m'.sites + Multiset.ofList m.closed?.toList = m.sites + Multiset.ofList m.opening?.toList := by
  rw [h, closed?, ho, hc]
  exact (add_zero _).symm

theorem turn_sites (s : Session) (r : Round) (stack : List Waiting) :
    let m : Machine := ⟨s, .turn r, stack⟩
    m.step.sites + Multiset.ofList m.closed?.toList = m.sites + Multiset.ofList m.opening?.toList := by
  intro m
  obtain ⟨before, after, next⟩ := r
  rcases after with _ | ⟨slot, after⟩
  · refine sites_still rfl rfl ?_
    simp only [m, step, turn]
    split
    · rename_i results hr
      simp [goto, sites, Slot.allSites_results hr]
    · rcases stack with _ | ⟨w, stack⟩
      · simp [roundEnded, goto, Round.again, sites]
      · cases w with
        | hook c id outer =>
          simp only [roundEnded, sites, Phase.sites, Round.sites_had, Round.sites_nil, Slot.sites, Waiting.allSites,
            List.map_cons, List.sum_cons, Waiting.sites]
          abel
        | _ => simp [roundEnded, goto, Round.again, sites]
  · cases slot with
    | ended result => exact sites_still rfl rfl (by simp [m, step, turn, goto, sites])
    | paused c id rest => exact sites_still rfl rfl (by simp [m, step, turn, sites])
    | awaiting c id inner next' =>
      refine sites_still rfl rfl ?_
      simp only [m, step, turn, sites, Phase.sites, Round.sites_first, Round.sites_cons, Slot.sites,
        Waiting.allSites, List.map_cons, List.sum_cons, Waiting.sites]
      abel
    | waiting c =>
      simp only [m, step, turn, closed?, closing?, opening?, desktop]
      cases (s.desktop.instantiate c.spec).2 with
      | error e => simp [created, goto, withDesktop, sites, Closing.site?]
      | ok id =>
        simp only [withDesktop, sites, Phase.sites, Round.sites_cons, Slot.sites, Waiting.allSites, List.map_cons,
          List.sum_cons, Waiting.sites, Option.bind_none, Option.toList_none, Option.toList_some, Multiset.coe_nil,
          Multiset.coe_singleton]
        abel

theorem request_sites (s : Session) (p : Program) (stack : List Waiting) :
    let m : Machine := ⟨s, .run p, stack⟩
    m.step.sites + Multiset.ofList m.closed?.toList = m.sites + Multiset.ofList m.opening?.toList := by
  intro m
  cases p with
  | done v =>
    rcases stack with _ | ⟨w, stack⟩
    · rfl
    · cases w with
      | hook c id r =>
        cases he : (s.desktop.concludeHook id c.spec.kind v).2 with
        | none =>
          refine sites_still rfl (by simp [m, closing?, desktop, he]) ?_
          simp [m, step, request, programEnded, hookEnded, desktop, he, withDesktop, sites]
        | some e =>
          refine sites_ended (x := ⟨c, r, some id, .error e⟩) rfl (by simp [m, closing?, desktop, he]) ?_
          simp only [m, step, request, programEnded, hookEnded, desktop, he, created, goto, withDesktop, sites,
            Phase.sites, Round.sites_had, Slot.sites, Waiting.allSites, List.map_cons, List.sum_cons, Waiting.sites,
            Closing.site?, Option.map_some, Option.toList_some, Multiset.coe_singleton]
          abel
      | post c id r =>
        refine sites_ended rfl rfl ?_
        simp only [m, step, request, programEnded, postEnded, created, goto, withDesktop, sites, Phase.sites,
          Round.sites_had, Slot.sites, Waiting.allSites, List.map_cons, List.sum_cons, Waiting.sites, Closing.site?,
          Option.map_some, Option.toList_some, Multiset.coe_singleton]
        abel
      | call l h d =>
        exact sites_still rfl rfl (by simp [m, step, request, programEnded, callEnded, goto, withSwitchboard, sites])
  | subscribe id tag handler next =>
    simp only [m, step, request]
    split <;> rfl
  | create creations next => exact sites_still rfl rfl (by simp [m, step, request, goto, sites])
  | pause rest =>
    rcases stack with _ | ⟨w, stack⟩
    · rfl
    · cases w with
      | hook c id r => exact sites_still rfl rfl (by simp [m, step, request, paused, sites])
      | _ => rfl
  | _ => rfl

/-- What is underway changes by the creations that begin and end. -/
theorem step_sites (m : Machine) :
    m.step.sites + Multiset.ofList m.closed?.toList = m.sites + Multiset.ofList m.opening?.toList := by
  obtain ⟨s, phase, stack⟩ := m
  cases phase with
  | stop v => rfl
  | deliver d =>
    refine sites_still rfl rfl ?_
    simp only [step, deliver]
    split
    · rfl
    · simp [sites]
  | turn r => exact turn_sites s r stack
  | run p => exact request_sites s p stack

/-- Where a creation ends, none begins. -/
theorem opening?_of_closing {m : Machine} {x : Closing} (h : m.closing? = some x) : m.opening? = none := by
  obtain ⟨s, phase, stack⟩ := m
  cases phase with
  | turn r =>
    obtain ⟨before, after, next⟩ := r
    rcases after with _ | ⟨slot, after⟩
    · rfl
    · cases slot with
      | waiting c =>
        simp only [closing?, opening?] at h ⊢
        split at h
        · cases h
        · rfl
      | _ => rfl
  | _ => rfl

/-- The windows that creations begin with are those that are registered. -/
theorem opening?_registered (m : Machine) : m.opening?.map Prod.snd = m.registered?.map Prod.fst := by
  obtain ⟨s, phase, stack⟩ := m
  cases phase with
  | turn r =>
    obtain ⟨before, after, next⟩ := r
    rcases after with _ | ⟨slot, after⟩
    · rfl
    · cases slot with
      | waiting c =>
        show _ = (s.desktop.registers c.spec).map Prod.fst
        simp only [opening?, desktop, Desktop.registers]
        cases hr : (s.desktop.instantiate c.spec).2 with
        | error e => rfl
        | ok id =>
          obtain ⟨container, hc⟩ := Desktop.resolve_of_ok hr
          rw [hc]
          rfl
      | _ => rfl
  | _ => rfl

end Machine

/-! ## Every window is accounted for -/

section

variable {d₀ : Desktop} {m m' : Machine} {ms : List Machine}

/-- The creations for which a run has registered a window, in turn. -/
def openings : List Machine → List Site := Run.trace (fun m _ l => l ++ m.opening?.toList) []

/-- The creations that have ended in a run, in turn. -/
def closings : List Machine → List Closing := Run.trace (fun m _ l => l ++ m.closing?.toList) []

theorem next_sites (h : m.Next m') (hm : m.isStopped → m.stack = []) :
    m'.sites + Multiset.ofList m.closed?.toList = m.sites + Multiset.ofList m.opening?.toList := by
  cases h with
  | step => exact m.step_sites
  | again p hs =>
    obtain ⟨s, phase, stack⟩ := m
    cases phase with
    | stop v =>
      obtain rfl : stack = [] := hm hs
      rfl
    | _ => cases hs

/-- What has begun is underway or has ended. -/
theorem run_sites (h : Run d₀ (m :: ms)) :
    m.sites + Multiset.ofList ((closings (m :: ms)).filterMap Closing.site?) = Multiset.ofList (openings (m :: ms)) := by
  generalize hl : m :: ms = l at h
  induction h generalizing m ms with
  | begin p =>
    cases hl
    rfl
  | @next m₀ m₁ ms₀ h hn ih =>
    cases hl
    have hc : (closings (m₁ :: m₀ :: ms₀)).filterMap Closing.site? =
        (closings (m₀ :: ms₀)).filterMap Closing.site? ++ m₀.closed?.toList := by
      show (closings (m₀ :: ms₀) ++ m₀.closing?.toList).filterMap _ = _
      rw [List.filterMap_append, Machine.closed?]
      cases m₀.closing? with
      | none => rfl
      | some x => cases hx : x.site? <;> simp [hx]
    have ho : openings (m₁ :: m₀ :: ms₀) = openings (m₀ :: ms₀) ++ m₀.opening?.toList := rfl
    rw [hc, ho, ← Multiset.coe_add, ← Multiset.coe_add, ← ih rfl, add_left_comm, next_sites hn (run_stopped h)]
    abel

theorem openings_windows : ∀ ms, (openings ms).map Prod.snd = (registrations ms).map Prod.fst
  | [] | [_] => rfl
  | m' :: m :: ms => by
    have ih := openings_windows (m :: ms)
    have h : m.opening?.toList.map Prod.snd = m.registered?.toList.map Prod.fst := by
      rw [← Option.toList_map, m.opening?_registered, Option.toList_map]
    show (openings (m :: ms) ++ _).map _ = (registrations (m :: ms) ++ _).map _
    rw [List.map_append, List.map_append, ih, h]

/-! ## The end of a creation -/

theorem Desktop.entries_remove (d : Desktop) (w : Window) :
    (d.remove w).entries = d.entries.filter fun e => e.id ≠ w.id := by
  by_cases hg : d.gesture = some w.id
  · simp only [Desktop.remove, hg, if_true]
    exact (Desktop.entries_lockAll _ false).trans (Desktop.entries_sink w)
  · simp only [Desktop.remove, hg, if_false]
    exact Desktop.entries_sink w

theorem Desktop.isLive_discard (d : Desktop) (id : WindowId) : (d.discard id).isLive id = false := by
  unfold Desktop.discard
  split
  · rename_i w hw
    obtain ⟨-, rfl⟩ := Desktop.mem_of_window? hw
    rw [Bool.eq_false_iff]
    intro hl
    obtain ⟨e, he, hid⟩ := Desktop.isLive_iff.1 hl
    rw [Desktop.entries_remove, List.mem_filter] at he
    simpa [hid] using he.2
  · rename_i hw
    simp [Desktop.isLive, hw]

/-- Where its hook does not lead on, a window is gone. -/
theorem Desktop.isLive_concludeHook {d : Desktop} {id : WindowId} {kind : String} {v : Verdict} {e : CreateError}
    (h : (d.concludeHook id kind v).2 = some e) : (d.concludeHook id kind v).1.isLive id = false := by
  unfold Desktop.concludeHook at h ⊢
  split
  · rename_i hl
    simpa using hl
  · rename_i hl
    rw [if_neg hl] at h
    split at h
    · cases h
    · exact d.isLive_discard id
    · exact d.isLive_discard id

/-- The window is the last that was completed, and marked so. -/
structure Desktop.Completed (d : Desktop) (id : WindowId) : Prop where
  lastCreated : d.lastCreated = some id
  constructed : ∃ w, d.window? id = some w ∧ w.constructed

theorem Desktop.Completed.isLive {d : Desktop} {id : WindowId} (h : d.Completed id) : d.isLive id := by
  obtain ⟨w, hw, -⟩ := h.constructed
  rw [Desktop.isLive, hw]
  rfl

/-- A window is completed, or it is gone and its creation fails. -/
theorem Desktop.complete_result (d : Desktop) (id : WindowId) (spec : WindowSpec) :
    ((d.complete id spec).2 = .ok id ∧ (d.complete id spec).1.Completed id) ∨
      ((d.complete id spec).2 = .error (.destroyed spec.kind) ∧ (d.complete id spec).1.isLive id = false) := by
  have finish : ∀ (d₁ : Desktop) (r : Desktop × Created), r = (if d₁.isLive id then
      ({ (d₁.change id fun w => { w with constructed := true }) with lastCreated := some id }, .ok id)
      else (d₁, .error (.destroyed spec.kind))) →
      r.2 = .ok id ∧ r.1.Completed id ∨ r.2 = .error (.destroyed spec.kind) ∧ r.1.isLive id = false := by
    rintro d₁ r rfl
    split
    · rename_i hl
      obtain ⟨w, hw⟩ := Desktop.exists_window hl
      refine .inl ⟨rfl, rfl, { w with constructed := true }, ?_, rfl⟩
      have hc := @Desktop.window?_change d₁ id (fun w => { w with constructed := true }) fun _ => rfl
      rwa [hw] at hc
    · rename_i hl
      exact .inr ⟨rfl, by simpa using hl⟩
  -- Whether it could be placed or not, what counts is whether it is live.
  unfold Desktop.complete
  exact finish _ _ rfl

/-- Nothing refers to a window. -/
structure Forgotten (m : Machine) (id : WindowId) : Prop where
  window : m.desktop.window? id = none
  stack : id ∉ m.desktop.stack
  byAddress : ∀ a, m.desktop.byAddress a ≠ some id
  container : ∀ e ∈ m.desktop.page.containers, id ∉ e.2.children
  subscription : ∀ tag, m.session.switchboard.has ⟨id, tag⟩ = false
  tray : id ∉ m.desktop.tray.keys
  gesture : m.desktop.gesture ≠ some id
  lastCreated : m.desktop.lastCreated ≠ some id

theorem run_forgotten (h₀ : d₀.IsNew) (h : Run d₀ (m :: ms)) {id : WindowId} (hl : m.desktop.isLive id = false) :
    Forgotten m id := by
  have hi := run_integrity h₀ h
  have dead : ¬ m.desktop.isLive id = true := Bool.eq_false_iff.1 hl
  have hnone : m.desktop.window? id = none := Option.not_isSome_iff_eq_none.1 dead
  refine ⟨hnone, ?_, ?_, ?_, ?_, ?_, fun hg => dead (hi.gesture id hg), fun hc => dead (hi.lastCreated id hc)⟩
  · rw [Desktop.stack, Desktop.stacked, ((List.mergeSort_perm _ _).map Window.id).mem_iff]
    exact fun hm => dead (Desktop.isLive_iff_mem_ids.2 hm)
  · intro a ha
    obtain ⟨w, hw, -⟩ := hi.byAddress a id ha
    rw [hnone] at hw
    cases hw
  · intro e he hm
    rw [hi.children e he] at hm
    obtain ⟨r, hr, rfl⟩ := List.mem_map.1 hm
    exact dead (Bool.and_eq_true_iff.1 (List.mem_filter.1 hr).2).2
  · intro tag
    rw [Bool.eq_false_iff]
    exact fun hh => dead (hi.subscribed ⟨id, tag⟩ hh)
  · rw [hi.mem_tray]
    rintro ⟨w, hw, -⟩
    rw [hnone] at hw
    cases hw

/-- How the next step ends a creation. -/
inductive Machine.Ends (m : Machine) (x : Closing) : Prop
  /-- No window was built, and no number given out. -/
  | unbuilt (e : CreateError) (hw : x.window = none) (ha : x.answer = .error e)
      (hi : m.step.desktop.issued = m.desktop.issued)
  | failed (id : WindowId) (e : CreateError) (hw : x.window = some id) (ha : x.answer = .error e)
      (hl : m.step.desktop.isLive id = false)
  | completed (id : WindowId) (hw : x.window = some id) (ha : x.answer = .ok id) (hc : m.step.desktop.Completed id)

theorem Machine.ends {x : Closing} (hs : m.desktop.Sound) (h : m.closing? = some x) :
    m.Ends x ∧ m.step.phase = .turn (x.round.had (.ended x.answer)) := by
  have hn : m.registered? = none := by
    have := m.opening?_registered
    rw [opening?_of_closing h] at this
    exact Option.map_eq_none_iff.1 this.symm
  have hissued := (next_desktop .step hs).issued.1
  rw [hn] at hissued
  have hd := m.step_task
  obtain ⟨s, phase, stack⟩ := m
  cases phase with
  | turn r =>
    obtain ⟨before, after, next⟩ := r
    rcases after with _ | ⟨slot, after⟩
    · cases h
    · cases slot with
      | waiting c =>
        simp only [closing?] at h
        split at h
        · cases h
        · rename_i e he
          cases h
          refine ⟨.unbuilt _ rfl rfl hissued, ?_⟩
          simp only [step, turn, he]
          rfl
      | _ => cases h
  | run p =>
    cases p with
    | done v =>
      rcases stack with _ | ⟨w, stack⟩
      · cases h
      · cases w with
        | hook c id r =>
          obtain ⟨e, he, rfl⟩ := Option.map_eq_some_iff.1 h
          refine ⟨.failed id e rfl rfl (hd ▸ Desktop.isLive_concludeHook he), ?_⟩
          replace he : (s.desktop.concludeHook id c.spec.kind v).2 = some e := he
          simp only [step, request, programEnded, hookEnded, desktop, he]
          rfl
        | post c id r =>
          cases h
          rcases Desktop.complete_result s.desktop id c.spec with ⟨ha, hc⟩ | ⟨ha, hl⟩
          · exact ⟨.completed id rfl ha (hd ▸ hc), rfl⟩
          · exact ⟨.failed id _ rfl ha (hd ▸ hl), rfl⟩
        | call l hd d => cases h
    | _ => cases h
  | _ => cases h

/-- The window of a creation that ends was registered for it and no other, and no
other has ended with it. -/
theorem run_closing (h₀ : d₀.IsNew) (h : Run d₀ (m :: ms)) {x : Closing} (hx : m.closing? = some x) {id : WindowId}
    (hw : x.window = some id) : (∀ c, (c, id) ∈ openings (m :: ms) ↔ c = x.creation) ∧
      ∀ y ∈ closings (m :: ms), y.window ≠ some id := by
  have hsite : x.site? = some (x.creation, id) := by rw [Closing.site?, hw]; rfl
  have hclosed : m.closed? = some (x.creation, id) := by rw [Machine.closed?, hx]; exact hsite
  have hstep := m.step_sites
  rw [Machine.opening?_of_closing hx, hclosed] at hstep
  have hmem : (x.creation, id) ∈ m.sites := by
    have : (x.creation, id) ∈ m.sites + Multiset.ofList (none : Option Site).toList := hstep ▸ by simp
    simpa using this
  have hsites := run_sites h
  -- Numbers are given out once, so a site is not both underway and given up.
  have hnodup : ((openings (m :: ms)).map Prod.snd).Nodup := openings_windows _ ▸ (run_registered h₀ h).nodup
  have hopened : (x.creation, id) ∈ openings (m :: ms) := by
    rw [← Multiset.mem_coe, ← hsites]
    exact Multiset.mem_add.2 (.inl hmem)
  refine ⟨fun c => ⟨fun hc => ?_, fun hc => hc ▸ hopened⟩, fun y hy hyw => ?_⟩
  · exact congrArg Prod.fst (List.inj_on_of_nodup_map hnodup hc hopened rfl)
  · have hy' : (y.creation, id) ∈ (closings (m :: ms)).filterMap Closing.site? :=
      List.mem_filterMap.2 ⟨y, hy, by rw [Closing.site?, hyw]; rfl⟩
    have hall : (m.sites.map Prod.snd + Multiset.ofList (((closings (m :: ms)).filterMap Closing.site?).map Prod.snd)).Nodup := by
      rw [← Multiset.map_coe, ← Multiset.map_add, hsites]
      exact hnodup
    exact Multiset.disjoint_left.1 (Multiset.nodup_add.1 hall).2.2 (Multiset.mem_map_of_mem Prod.snd hmem)
      (Multiset.mem_coe.2 (List.mem_map.2 ⟨_, hy', rfl⟩))

/-- What is known when the next step ends a creation, given the creations that had begun
and those that had ended before. -/
structure Outcome (m : Machine) (x : Closing) (opened : List Site) (closed : List Closing) : Prop where
  /-- What has begun is underway or has ended. -/
  accounted : m.sites + Multiset.ofList (closed.filterMap Closing.site?) = Multiset.ofList opened
  /-- The answer stands in the round of the creation. -/
  told : m.step.phase = .turn (x.round.had (.ended x.answer))
  registered : ∀ id, x.window = some id → ∀ c, (c, id) ∈ opened ↔ c = x.creation
  once : ∀ id, x.window = some id → ∀ y ∈ closed, y.window ≠ some id
  /-- Without a window no number was given out. -/
  unbuilt : x.window = none → m.step.desktop.issued = m.desktop.issued
  ok_iff : ∀ id, x.answer = .ok id ↔ x.window = some id ∧ m.step.desktop.isLive id
  completed : ∀ id, x.answer = .ok id → m.step.desktop.Completed id
  forgotten : ∀ e id, x.answer = .error e → x.window = some id → Forgotten m.step id

/-- A creation succeeds if and only if the window that was registered for it is live
when it ends. It is then the last that was completed; else nothing refers to it. -/
theorem run_creation (h₀ : d₀.IsNew) (h : Run d₀ (m :: ms)) {x : Closing} (hx : m.closing? = some x) :
    Outcome m x (openings (m :: ms)) (closings (m :: ms)) := by
  obtain ⟨hends, htold⟩ := Machine.ends (run_sound h₀ h) hx
  have hreg := fun (id : WindowId) (hw : x.window = some id) => (run_closing h₀ h hx hw).1
  have honce := fun (id : WindowId) (hw : x.window = some id) => (run_closing h₀ h hx hw).2
  have hsites := run_sites h
  obtain ⟨c, r, window, answer⟩ := x
  cases hends with
  | unbuilt e hw ha hi =>
    obtain rfl : window = none := hw
    obtain rfl : answer = .error e := ha
    exact ⟨hsites, htold, hreg, honce, fun _ => hi, fun id => ⟨nofun, nofun⟩, nofun, nofun⟩
  | failed id e hw ha hl =>
    obtain rfl : window = some id := hw
    obtain rfl : answer = .error e := ha
    refine ⟨hsites, htold, hreg, honce, nofun, fun i => ⟨nofun, ?_⟩, nofun, ?_⟩
    · rintro ⟨hi, hlive⟩
      cases hi
      rw [hl] at hlive
      cases hlive
    · intro _ i _ hi
      cases hi
      exact run_forgotten h₀ (h.next .step) hl
  | completed id hw ha hc =>
    obtain rfl : window = some id := hw
    obtain rfl : answer = .ok id := ha
    refine ⟨hsites, htold, hreg, honce, nofun, fun i => ⟨?_, ?_⟩, ?_, nofun⟩
    · intro hi
      cases hi
      exact ⟨rfl, hc.isLive⟩
    · rintro ⟨hi, -⟩
      cases hi
      rfl
    · intro i hi
      cases hi
      exact hc

end

/-- A window that destroys itself in its construction hook. -/
def Creation.selfDestroying : Creation :=
  .mk { kind := "note" } (fun id => .then_ (.destroy id) .accept) fun _ => .accept

/-- A host that creates a window that destroys itself at the same time as one that does
nothing. -/
def createBoth : Program := .create [.selfDestroying, .passive { kind := "note" }] fun _ => .accept

/-- Both creations of `createBoth` end as they should. -/
theorem run_creation_createBoth :
    let m (n : Nat) := Machine.step^[n + 1] (.start { desktop := .plain } createBoth)
    let ms (n : Nat) := Machine.moments (.start { desktop := .plain } createBoth) (n + 1)
    ∃ x y, (m 2).closing? = some x ∧ x.answer = .error (.destroyed "note") ∧ Outcome (m 2) x (openings (ms 2)) (closings (ms 2)) ∧
      (m 5).closing? = some y ∧ y.answer = .ok ⟨2⟩ ∧ Outcome (m 5) y (openings (ms 5)) (closings (ms 5)) := by
  intro m ms
  have run : ∀ n, Run Desktop.plain (ms n) := fun n => Run.moments createBoth (n + 1)
  exact ⟨_, _, rfl, rfl, run_creation Desktop.isNew_plain (run 2) rfl, rfl, rfl,
    run_creation Desktop.isNew_plain (run 5) rfl⟩

end FloatingPanels

import FloatingPanels.Proofs.Desktop.Company
import FloatingPanels.Proofs.Rounds
import FloatingPanels.Proofs.Stacking
import Mathlib.Data.List.Perm.Basic
/-!
# Creations that overlap

Creations of the same request go on in turns, so that windows come and go in the middle
of the stack while others are still under construction. Where construction hooks only
pause before they give their verdicts, nothing of that is seen in the end:
`run_schedule` says that it is as if the creations had been made one after the other,
however often each of them paused. Only which window was completed last depends on that.
-/

namespace FloatingPanels

/-! ## Plans -/

/-- What is decided of a creation beforehand: the wishes for the window, and the verdict
of its construction hook. -/
structure Plan where
  spec : WindowSpec
  verdict : Verdict

/-- A program after some pauses. -/
def Program.pausing : Nat → Program → Program
  | 0, p => p
  | n + 1, p => .pause (pausing n p)

/-- The creation of a plan, whose construction hook pauses so many times. -/
def Plan.creation (p : Plan) (pauses : Nat) : Creation :=
  .mk p.spec (fun _ => .pausing pauses (.done p.verdict)) fun _ => .accept

namespace Desktop

/-- The end of a creation whose hook comes to its verdict. -/
def finish (d : Desktop) (id : WindowId) (p : Plan) : Desktop × Created :=
  match d.concludeHook id p.spec.kind p.verdict with
  | (d, some e) => (d, .error e)
  | (d, none) => d.complete id p.spec

/-- A creation without a pause. -/
def createOne (d : Desktop) (p : Plan) : Desktop × Created :=
  match d.instantiate p.spec with
  | (d, .error e) => (d, .error e)
  | (d, .ok id) => d.finish id p

/-- Creations one after the other. -/
def createInTurn (d : Desktop) : List Plan → Desktop × List Created
  | [] => (d, [])
  | p :: ps =>
    let (d, r) := d.createOne p
    let (d, rs) := d.createInTurn ps
    (d, r :: rs)

theorem length_createInTurn (d : Desktop) (ps : List Plan) : (d.createInTurn ps).2.length = ps.length := by
  induction ps generalizing d with
  | nil => rfl
  | cons p ps ih => exact congrArg Nat.succ (ih (d.createOne p).1)

end Desktop

/-- The windows of some answers. -/
def accepted (answers : List Created) : List WindowId := answers.filterMap Except.toOption

/-- The windows of some answers in the order in which they were completed, given the
numbers of pauses: round by round, and in every round in the order of the request. -/
def completions (pauses : List Nat) (answers : List Created) : List WindowId :=
  (List.range (pauses.foldr max 0 + 1)).flatMap fun round =>
    (pauses.zip answers).filterMap fun x => if x.1 = round then x.2.toOption else none

theorem le_foldr_max {n : Nat} {ns : List Nat} (h : n ∈ ns) : n ≤ ns.foldr max 0 := by
  induction ns with
  | nil => cases h
  | cons k ns ih =>
    rw [List.foldr_cons]
    rcases List.mem_cons.1 h with rfl | h
    · exact Nat.le_max_left _ _
    · exact Nat.le_trans (ih h) (Nat.le_max_right _ _)

theorem filterMap_cons_toList {α β : Type} (f : α → Option β) (x : α) (xs : List α) :
    (x :: xs).filterMap f = (f x).toList ++ xs.filterMap f := by
  cases h : f x <;> simp [h]

theorem getLast?_filterMap_cons {α β : Type} (f : α → Option β) (x : α) (xs : List α) :
    ((x :: xs).filterMap f).getLast? = (xs.filterMap f).getLast?.or (f x) := by
  rw [filterMap_cons_toList, List.getLast?_append]
  cases f x <;> rfl

theorem flatMap_range_ite {α : Type} {k n : Nat} (h : k < n) (o : Option α) :
    (List.range n).flatMap (fun round => (if k = round then o else none).toList) = o.toList := by
  obtain ⟨before, after, hsplit⟩ := List.append_of_mem (List.mem_range.2 h)
  have hn : (before ++ k :: after).Nodup := hsplit ▸ List.nodup_range
  rw [List.nodup_middle, List.nodup_cons, List.mem_append, not_or] at hn
  have hnil : ∀ rounds : List Nat, k ∉ rounds →
      rounds.flatMap (fun round => (if k = round then o else none).toList) = [] := by
    intro rounds hk
    refine List.flatMap_eq_nil_iff.2 fun round hr => ?_
    rw [if_neg (fun hkr : k = round => hk (hkr ▸ hr)), Option.toList_none]
  rw [hsplit, List.flatMap_append, List.flatMap_cons, hnil before hn.1.1, hnil after hn.1.2, if_pos rfl, List.append_nil,
    List.nil_append]

/-- Round by round, all have their turn once. -/
theorem flatMap_rounds_perm {n : Nat} {xs : List (Nat × Created)} (h : ∀ x ∈ xs, x.1 < n) :
    ((List.range n).flatMap fun round => xs.filterMap fun x => if x.1 = round then x.2.toOption else none).Perm
      (xs.filterMap fun x => x.2.toOption) := by
  induction xs with
  | nil => simp
  | cons x xs ih =>
    obtain ⟨hx, h⟩ := List.forall_mem_cons.1 h
    simp only [filterMap_cons_toList]
    refine (List.flatMap_append_perm _ _ _).symm.trans ?_
    rw [flatMap_range_ite hx]
    exact (ih h).append_left _

/-- Every accepted window is completed once. -/
theorem completions_perm {pauses : List Nat} {answers : List Created} (h : answers.length ≤ pauses.length) :
    (completions pauses answers).Perm (accepted answers) := by
  have hrounds : ∀ x ∈ pauses.zip answers, x.1 < pauses.foldr max 0 + 1 := fun x hx =>
    Nat.lt_succ_of_le (le_foldr_max (List.of_mem_zip hx).1)
  have hall : (pauses.zip answers).filterMap (fun x => x.2.toOption) = accepted answers := by
    rw [accepted, ← List.map_snd_zip h, List.filterMap_map, List.map_snd_zip h]
    rfl
  exact hall ▸ flatMap_rounds_perm hrounds

/-! ## Creations under way -/

/-- A creation that has begun. -/
structure Start where
  plan : Plan
  pauses : Nat
  /-- Its window as it was built, or why there is none. -/
  built : Except CreateError Window

namespace Start

variable (page : Page) (round : Nat) (x : Start)

/-- The answer, whenever it is given. -/
def answer : Created :=
  match x.built with
  | .error e => .error e
  | .ok w =>
    match Desktop.declined x.plan.spec.kind x.plan.verdict with
    | some e => .error e
    | none => .ok w.id

/-- The window that stays, as it is then. -/
def kept : Option Window :=
  match x.built with
  | .error _ => none
  | .ok w =>
    if (Desktop.declined x.plan.spec.kind x.plan.verdict).isSome then none else some (w.completed page x.plan.spec.under)

/-- The window that is still under construction after a round. -/
def unfinished : Option Window :=
  match x.built with
  | .error _ => none
  | .ok w => if round < x.pauses then some w else none

/-- The window that there is after a round. -/
def present : Option Window := (x.unfinished round).or (x.kept page)

/-- What stands in a slot after a round. -/
def slot : Slot :=
  match x.unfinished round with
  | some w => .paused (x.plan.creation x.pauses) w.id (.pausing (x.pauses - (round + 1)) (.done x.plan.verdict))
  | none => .ended x.answer

/-- The window that is completed in a round. -/
def completedIn : Option WindowId := if x.pauses = round then x.answer.toOption else none

theorem kept_id : (x.kept page).map Window.id = x.answer.toOption := by
  unfold kept answer
  cases x.built with
  | error e => rfl
  | ok w =>
    obtain ⟨rect, hw⟩ := Window.placed_eq page x.plan.spec.under w
    cases Desktop.declined x.plan.spec.kind x.plan.verdict with
    | some e => rfl
    | none => simp [Window.completed, hw, Except.toOption]

end Start

namespace Desktop

variable {b d : Desktop} {w : Window} {ws pre post : List Window} {x : Start}

/-- The desktop after a window was completed, if one was. -/
def withLast (d : Desktop) (l : Option WindowId) : Desktop := { d with lastCreated := l.or d.lastCreated }

@[simp] theorem withLast_none (d : Desktop) : d.withLast none = d := rfl

theorem withLast_withLast (d : Desktop) (l l' : Option WindowId) :
    (d.withLast l).withLast l' = d.withLast (l'.or l) := by
  rw [withLast, withLast, withLast, Option.or_assoc]

/-- No address belongs to a window that joins. -/
structure Anonymous (b : Desktop) (ws : List Window) : Prop extends b.Company ws where
  owners : ∀ e ∈ b.addresses, e.2.number ≤ b.issued
  unclaimed : ∀ w ∈ ws, ∀ e ∈ b.addresses, e.2 ≠ w.id

theorem Sound.anonymous (h : d.Sound) {s : Stack} (hs : d.StackedAs s) : d.Anonymous [] where
  toCompany := h.company hs
  owners a ha := by
    obtain ⟨e, he, hid, -⟩ := h.addresses a ha
    exact hid ▸ h.issued e he
  unclaimed := List.forall_mem_nil _

theorem concludeHook_none {id : WindowId} {kind : String} {v : Verdict} (h : (d.concludeHook id kind v).2 = none) :
    d.concludeHook id kind v = (d, none) := by
  unfold concludeHook at h ⊢
  split
  · rename_i hl
    simp [hl] at h
  · rename_i hl
    rw [if_neg hl] at h
    split at h
    · rfl
    · cases h
    · cases h

/-- A hook that comes to its verdict leaves the window that is kept, if any, in its
place. -/
theorem Anonymous.finish (h : b.Anonymous (pre ++ w :: post)) (hx : x.built = .ok w) (hc : w.constructed = false) :
    (b.joinedBy (pre ++ w :: post)).finish w.id x.plan =
        ((b.withLast x.answer.toOption).joinedBy (pre ++ (x.kept b.page).toList ++ post), x.answer) ∧
      (b.withLast x.answer.toOption).Anonymous (pre ++ (x.kept b.page).toList ++ post) := by
  have hw : w ∈ pre ++ w :: post := List.mem_append_right _ List.mem_cons_self
  have haddr : b.addresses.filter (fun e => e.2 ≠ w.id) = b.addresses :=
    List.filter_eq_self.2 fun e he => decide_eq_true (h.unclaimed w hw e he)
  have hhook := h.toCompany.concludeHook hc x.plan.spec.kind x.plan.verdict
  rw [haddr] at hhook
  unfold Desktop.finish
  rw [hhook]
  simp only [Start.answer, Start.kept, hx]
  cases declined x.plan.spec.kind x.plan.verdict with
  | some e =>
    have hdrop : b.Anonymous (pre ++ post) := by
      refine ⟨h.toCompany.drop, h.owners, fun v hv => h.unclaimed v ?_⟩
      rw [List.mem_append, List.mem_cons]
      exact (List.mem_append.1 hv).imp_right .inr
    simpa [Except.toOption] using hdrop
  | none =>
    have hcompleted : (b.withLast (some w.id)).Anonymous (pre ++ w.completed b.page x.plan.spec.under :: post) := by
      refine ⟨h.toCompany.completed x.plan.spec, h.owners, fun v hv => ?_⟩
      obtain ⟨rect, hplaced⟩ := Window.placed_eq b.page x.plan.spec.under w
      rcases List.mem_append.1 hv with hv | hv
      · exact h.unclaimed v (List.mem_append_left _ hv)
      · rcases List.mem_cons.1 hv with rfl | hv
        · rw [Window.completed, hplaced]
          exact h.unclaimed w hw
        · exact h.unclaimed v (List.mem_append_right _ (List.mem_cons_of_mem _ hv))
    simpa [Except.toOption, h.toCompany.complete x.plan.spec, withLast] using hcompleted

theorem fresh_same (d : Desktop) (spec : WindowSpec) :
    (d.fresh spec).1.windows = d.windows ∧ (d.fresh spec).1.page = d.page ∧
      (d.fresh spec).1.lastCreated = d.lastCreated := by
  rcases d.fresh_cases spec with ⟨library, e, -, hfresh⟩ | ⟨library, w, -, -, hfresh⟩ <;> rw [hfresh] <;>
    exact ⟨rfl, rfl, rfl⟩

theorem isLive_congr (h : d.windows = b.windows) (id : WindowId) : d.isLive id = b.isLive id := by
  rw [isLive, isLive, window?, window?, h]

/-- To build a window adds it to those that join, if it has no address. -/
theorem Anonymous.fresh (h : b.Anonymous ws) {spec : WindowSpec} (ha : spec.address = none) :
    match (b.fresh spec).2 with
    | .error _ => (b.fresh spec).1.Anonymous ws
    | .ok w => w.constructed = false ∧ (b.fresh spec).1.Anonymous (ws ++ [w]) := by
  rcases b.fresh_cases spec with ⟨library, e, -, hfresh⟩ | ⟨library, w, -, hw, hfresh⟩
  · rw [hfresh]
    exact ⟨h.toCompany.congr rfl rfl rfl rfl rfl, h.owners, h.unclaimed⟩
  · simp only [ha] at hfresh
    rw [hfresh]
    refine ⟨hw.constructed, (h.toCompany.add hw).congr rfl rfl rfl rfl rfl,
      fun e he => Nat.le_succ_of_le (h.owners e he), List.forall_mem_append.2 ⟨h.unclaimed, ?_⟩⟩
    refine List.forall_mem_singleton.2 fun e he hid => ?_
    have := h.owners e he
    rw [hid, hw.id] at this
    exact Nat.not_succ_le_self _ this

/-- The last completion does not matter to what is built. -/
theorem fresh_withLast (d : Desktop) (l : Option WindowId) (spec : WindowSpec) :
    (d.withLast l).fresh spec = ((d.fresh spec).1.withLast l, (d.fresh spec).2) := by
  unfold fresh withLast
  cases d.page.resolve spec.parent with
  | none => rfl
  | some container =>
    dsimp only
    cases d.library.fragment spec.kind with
    | mk library content =>
      rcases content with _ | _ | content
      · rfl
      · rfl
      · have hn : newFrame { d with lastCreated := l.or d.lastCreated, library } spec content =
            newFrame { d with library } spec content := rfl
        dsimp only
        rw [hn]
        cases newFrame { d with library } spec content with
        | error e => rfl
        | ok f => rfl

/-- What has come of creations that have begun in turn. -/
def begun (d : Desktop) : List (Plan × Nat) → Desktop × List Start
  | [] => (d, [])
  | p :: ps =>
    let (d, built) := d.fresh p.1.spec
    let (d, xs) := d.begun ps
    (d, ⟨p.1, p.2, built⟩ :: xs)

theorem begun_withLast (d : Desktop) (l : Option WindowId) (ps : List (Plan × Nat)) :
    (d.withLast l).begun ps = ((d.begun ps).1.withLast l, (d.begun ps).2) := by
  induction ps generalizing d with
  | nil => rfl
  | cons p ps ih => simp only [begun, fresh_withLast, ih]

theorem begun_same (d : Desktop) (ps : List (Plan × Nat)) :
    (d.begun ps).1.windows = d.windows ∧ (d.begun ps).1.page = d.page ∧
      (d.begun ps).1.lastCreated = d.lastCreated := by
  induction ps generalizing d with
  | nil => exact ⟨rfl, rfl, rfl⟩
  | cons p ps ih =>
    obtain ⟨hwindows, hpage, hlast⟩ := ih (d.fresh p.1.spec).1
    obtain ⟨hw, hp, hl⟩ := d.fresh_same p.1.spec
    exact ⟨hwindows.trans hw, hpage.trans hp, hlast.trans hl⟩

theorem begun_plans (d : Desktop) (ps : List (Plan × Nat)) :
    (d.begun ps).2.map (fun x => (x.plan, x.pauses)) = ps := by
  induction ps generalizing d with
  | nil => rfl
  | cons p ps ih => simp only [begun, List.map_cons, ih]

/-- What is left of creations one after the other. -/
theorem Anonymous.createInTurn {ps : List (Plan × Nat)} (hports : ∀ p ∈ ps, p.1.spec.address = none)
    (h : b.Anonymous ws) :
    (b.joinedBy ws).createInTurn (ps.map Prod.fst) =
        (((b.begun ps).1.withLast ((b.begun ps).2.filterMap fun x => x.answer.toOption).getLast?).joinedBy
          (ws ++ (b.begun ps).2.filterMap (Start.kept b.page)), (b.begun ps).2.map Start.answer) ∧
      ((b.begun ps).1.withLast ((b.begun ps).2.filterMap fun x => x.answer.toOption).getLast?).Anonymous
        (ws ++ (b.begun ps).2.filterMap (Start.kept b.page)) := by
  induction ps generalizing b ws with
  | nil =>
    simp only [begun, Desktop.createInTurn, List.map_nil, List.filterMap_nil, List.append_nil]
    exact ⟨rfl, h⟩
  | cons p ps ih =>
    obtain ⟨hp, hports⟩ := List.forall_mem_cons.1 hports
    have hpage := (b.fresh_same p.1.spec).2.1
    have hbuilt := h.fresh hp
    have hinst := b.instantiate_joinedBy ws p.1.spec
    simp only [List.map_cons, Desktop.createInTurn, createOne, hinst, begun]
    cases hf : b.fresh p.1.spec with
    | mk b' built =>
      rw [hf] at hpage hbuilt
      dsimp only at hpage hbuilt
      rw [getLast?_filterMap_cons, filterMap_cons_toList, ← hpage]
      cases built with
      | error e =>
        have hnone : Except.toOption (Start.answer ⟨p.1, p.2, .error e⟩) = none := rfl
        obtain ⟨hrest, hx⟩ := ih hports hbuilt
        rw [hrest, hnone, Option.or_none]
        exact ⟨rfl, hx⟩
      | ok w =>
        obtain ⟨hfinish, hx⟩ := Anonymous.finish (x := ⟨p.1, p.2, .ok w⟩) hbuilt.2 rfl hbuilt.1
        rw [List.append_nil] at hfinish hx
        obtain ⟨hrest, hx⟩ := ih hports hx
        rw [begun_withLast, withLast_withLast, List.append_assoc] at hrest hx
        simp only [hfinish]
        rw [hrest]
        exact ⟨rfl, hx⟩

/-- The windows that are accepted come to the top in turn. -/
theorem Anonymous.stack_createInTurn {ps : List (Plan × Nat)} (h : b.Anonymous []) {s : Stack} (hs : b.StackedAs s)
    (hports : ∀ p ∈ ps, p.1.spec.address = none) {answers : List Created}
    (hd : b.createInTurn (ps.map Prod.fst) = (d, answers)) : d.stack = b.stack ++ accepted answers := by
  obtain ⟨hturns, hcompany⟩ := h.createInTurn hports
  rw [joinedBy_nil, hd] at hturns
  obtain ⟨rfl, rfl⟩ := Prod.mk.inj hturns
  have hbase : ((b.begun ps).1.withLast ((b.begun ps).2.filterMap fun x => x.answer.toOption).getLast?).StackedAs s :=
    hs.congr (by rw [withLast, (b.begun_same ps).1])
  have hnew : ∀ w ∈ [] ++ (b.begun ps).2.filterMap (Start.kept b.page), _ := fun w hw => (hcompany.strangers w hw).isLive
  rw [(hbase.joinedBy hcompany.nodup hnew).stack, hs.stack, accepted, List.filterMap_map, List.nil_append,
    List.map_filterMap]
  simp only [Start.kept_id]
  rfl

end Desktop

/-! ## Rounds -/

namespace Start

variable {page : Page} {round : Nat} {x : Start} {w : Window}

theorem unfinished_eq_some (h : x.unfinished round = some w) : x.built = .ok w ∧ round < x.pauses := by
  unfold unfinished at h
  split at h
  · cases h
  · rename_i hb
    split at h
    · rename_i hr
      exact ⟨Option.some.inj h ▸ hb, hr⟩
    · cases h

theorem unfinished_eq_none (h : x.pauses ≤ round) : x.unfinished round = none := by
  unfold unfinished
  split
  · rfl
  · exact if_neg (Nat.not_lt.2 h)

theorem slot_of_unfinished (h : x.unfinished round = some w) : x.slot round =
    .paused (x.plan.creation x.pauses) w.id (.pausing (x.pauses - (round + 1)) (.done x.plan.verdict)) := by
  rw [slot, h]

theorem slot_of_ended (h : x.unfinished round = none) : x.slot round = .ended x.answer := by
  rw [slot, h]

theorem present_of_unfinished (h : x.unfinished round = some w) : x.present page round = some w := by
  rw [present, h, Option.some_or]

theorem present_of_ended (h : x.unfinished round = none) : x.present page round = x.kept page := by
  rw [present, h, Option.none_or]

theorem completedIn_error {e : CreateError} (h : x.built = .error e) : x.completedIn round = none := by
  unfold completedIn answer
  rw [h]
  exact ite_self _

/-- A creation that has ended takes no part in the next round. -/
theorem ended_succ (page : Page) (h : x.unfinished round = none) :
    x.slot (round + 1) = x.slot round ∧ x.present page (round + 1) = x.present page round ∧
      x.completedIn (round + 1) = none := by
  have hnext : x.unfinished (round + 1) = none := by
    unfold unfinished at h ⊢
    split
    · rfl
    · rename_i hb
      simp only [hb] at h
      split at h
      · cases h
      · exact if_neg (by omega)
  refine ⟨by rw [slot_of_ended h, slot_of_ended hnext], by rw [present_of_ended h, present_of_ended hnext], ?_⟩
  unfold completedIn
  split
  · rename_i hp
    unfold unfinished at h
    split at h
    · rename_i hb
      simp [answer, hb, Except.toOption]
    · split at h
      · cases h
      · omega
  · rfl

/-- The window that was completed last in the rounds after the first. -/
def completedUpTo (xs : List Start) (n : Nat) : Option WindowId :=
  ((List.range n).flatMap fun round => xs.filterMap (completedIn (round + 1))).getLast?

/-- The first round and those after it are all rounds. -/
theorem getLast?_completions (xs : List Start) :
    (completions (xs.map Start.pauses) (xs.map Start.answer)).getLast? =
      (completedUpTo xs ((xs.map Start.pauses).foldr max 0)).or (xs.filterMap (completedIn 0)).getLast? := by
  have hround : ∀ round, ((xs.map Start.pauses).zip (xs.map Start.answer)).filterMap
      (fun x => if x.1 = round then x.2.toOption else none) = xs.filterMap (completedIn round) := by
    intro round
    rw [List.zip_map', List.filterMap_map]
    rfl
  rw [completions, List.range_succ_eq_map, List.flatMap_cons, List.flatMap_map, List.getLast?_append, hround]
  simp only [hround]
  rfl

theorem completedUpTo_succ (xs : List Start) (n : Nat) :
    completedUpTo xs (n + 1) = (xs.filterMap (completedIn (n + 1))).getLast?.or (completedUpTo xs n) := by
  rw [completedUpTo, List.range_succ, List.flatMap_append, List.flatMap_singleton, List.getLast?_append]
  rfl

end Start

namespace Machine

variable {b d : Desktop} {w : Window} {ws pre post : List Window} {x : Start} {round : Nat}
variable {sw : Switchboard}

theorem leads_finish {id : WindowId} {p : Plan} (hsub : ∀ l, sw.has l → (d.finish id p).1.isLive l.id) (n : Nat)
    (r : Round) (stack : List Waiting) :
    Leads ⟨⟨d, sw⟩, .run (.done p.verdict), .hook (p.creation n) id r :: stack⟩
      ⟨⟨(d.finish id p).1, sw⟩, .turn (r.had (.ended (d.finish id p).2)), stack⟩ := by
  cases hc : d.concludeHook id p.spec.kind p.verdict with
  | mk d' e =>
    cases e with
    | some e =>
      simp only [Desktop.finish, hc] at hsub ⊢
      exact ⟨1, step_declined hsub hc⟩
    | none =>
      obtain rfl : d = d' := by
        have h := Desktop.concludeHook_none (congrArg Prod.snd hc)
        rw [hc] at h
        exact (congrArg Prod.fst h).symm
      simp only [Desktop.finish, hc] at hsub ⊢
      exact leads_accepted hsub hc rfl rfl

/-- The turn of a hook in a round: it pauses once more, or comes to its verdict. -/
theorem leads_turn (h : b.Anonymous (pre ++ w :: post)) (hsub : ∀ l, sw.has l → b.isLive l.id) (hx : x.built = .ok w)
    (hc : w.constructed = false) (hr : round ≤ x.pauses) (r : Round) (stack : List Waiting) :
    Leads ⟨⟨b.joinedBy (pre ++ w :: post), sw⟩, .run (.pausing (x.pauses - round) (.done x.plan.verdict)),
        .hook (x.plan.creation x.pauses) w.id r :: stack⟩
      ⟨⟨(b.withLast (x.completedIn round)).joinedBy (pre ++ (x.present b.page round).toList ++ post), sw⟩,
        .turn (r.had (x.slot round)), stack⟩ ∧
      (b.withLast (x.completedIn round)).Anonymous (pre ++ (x.present b.page round).toList ++ post) := by
  rcases Nat.lt_or_eq_of_le hr with hr | hr
  · -- Only its slot remembers that the window is still under construction.
    have hpauses : x.pauses - round = x.pauses - (round + 1) + 1 := by omega
    have hu : x.unfinished round = some w := by
      unfold Start.unfinished
      rw [hx]
      exact if_pos hr
    have hdone : x.completedIn round = none := if_neg (Nat.ne_of_gt hr)
    rw [hdone, Start.present_of_unfinished hu, hpauses, Start.slot_of_unfinished hu, Option.toList_some, List.append_assoc]
    exact ⟨⟨1, rfl⟩, h⟩
  · subst hr
    have hu : x.unfinished x.pauses = none := Start.unfinished_eq_none (Nat.le_refl _)
    have hdone : x.completedIn x.pauses = x.answer.toOption := if_pos rfl
    obtain ⟨hfinish, hrest⟩ := h.finish hx hc
    have hlive : ∀ l, sw.has l → ((b.joinedBy (pre ++ w :: post)).finish w.id x.plan).1.isLive l.id := by
      rw [hfinish]
      exact fun l hl => Desktop.isLive_joinedBy.2 (.inl (hsub l hl))
    have hleads := leads_finish hlive x.pauses r stack
    rw [hfinish] at hleads
    rw [Nat.sub_self, hdone, Start.present_of_ended hu, Start.slot_of_ended hu]
    exact ⟨hleads, hrest⟩

variable (next : List Created → Program) (stack : List Waiting)

/-- The first round: every creation begins and has its first turn. -/
theorem leads_begun {ps : List (Plan × Nat)} (hports : ∀ p ∈ ps, p.1.spec.address = none) (h : b.Anonymous ws)
    (hsub : ∀ l, sw.has l → b.isLive l.id) (before : List Slot) :
    Leads ⟨⟨b.joinedBy ws, sw⟩, .turn ⟨before, ps.map fun p => .waiting (p.1.creation p.2), next⟩, stack⟩
      ⟨⟨((b.begun ps).1.withLast ((b.begun ps).2.filterMap (Start.completedIn 0)).getLast?).joinedBy
        (ws ++ (b.begun ps).2.filterMap (Start.present b.page 0)), sw⟩,
        .turn ⟨before ++ (b.begun ps).2.map (Start.slot 0), [], next⟩, stack⟩ ∧
      ((b.begun ps).1.withLast ((b.begun ps).2.filterMap (Start.completedIn 0)).getLast?).Anonymous
        (ws ++ (b.begun ps).2.filterMap (Start.present b.page 0)) ∧
      ∀ x ∈ (b.begun ps).2, ∀ w, x.built = .ok w → w.constructed = false := by
  induction ps generalizing b ws before with
  | nil =>
    simp only [Desktop.begun, List.map_nil, List.filterMap_nil, List.append_nil]
    exact ⟨.refl _, h, List.forall_mem_nil _⟩
  | cons p ps ih =>
    obtain ⟨hp, hports⟩ := List.forall_mem_cons.1 hports
    obtain ⟨hwindows, hpage, -⟩ := b.fresh_same p.1.spec
    have hbuilt := h.fresh hp
    have hinst := b.instantiate_joinedBy ws p.1.spec
    rw [List.map_cons]
    simp only [Desktop.begun]
    cases hf : b.fresh p.1.spec with
    | mk b' built =>
      rw [hf] at hwindows hpage hbuilt hinst
      dsimp only at hwindows hpage hbuilt
      have hsub' : ∀ l, sw.has l → b'.isLive l.id := fun l hl =>
        (Desktop.isLive_congr hwindows l.id).trans (hsub l hl)
      generalize hrest : (ps.map fun p => Slot.waiting (p.1.creation p.2)) = rest at ih ⊢
      rw [getLast?_filterMap_cons, filterMap_cons_toList, List.forall_mem_cons, ← hpage]
      cases built with
      | error e =>
        have hstep : step ⟨⟨b.joinedBy ws, sw⟩, .turn ⟨before, .waiting (p.1.creation p.2) :: rest, next⟩, stack⟩ =
            ⟨⟨b'.joinedBy ws, sw⟩, .turn ⟨before ++ [.ended (.error e)], rest, next⟩, stack⟩ :=
          step_unbuilt (fun l hl => Desktop.isLive_joinedBy.2 (.inl (hsub' l hl))) hinst
        obtain ⟨hleads, hcompany, hnew⟩ := ih hports hbuilt hsub' (before ++ [.ended (.error e)])
        rw [Start.completedIn_error rfl, Option.or_none]
        rw [List.append_assoc] at hleads
        exact ⟨.trans ⟨1, hstep⟩ hleads, hcompany, (fun w hw => by cases hw), hnew⟩
      | ok w =>
        obtain ⟨hc, hw⟩ := hbuilt
        have hstep : step ⟨⟨b.joinedBy ws, sw⟩, .turn ⟨before, .waiting (p.1.creation p.2) :: rest, next⟩, stack⟩ =
            ⟨⟨b'.joinedBy (ws ++ [w]), sw⟩, .run (.pausing p.2 (.done p.1.verdict)),
              .hook (p.1.creation p.2) w.id ⟨before, rest, next⟩ :: stack⟩ :=
          step_built (fun l hl => Desktop.isLive_joinedBy.2 (.inl (hsub' l hl))) hinst
        obtain ⟨hturn, hx⟩ := leads_turn (x := ⟨p.1, p.2, .ok w⟩) hw hsub' rfl hc (Nat.zero_le _) ⟨before, rest, next⟩ stack
        rw [List.append_nil] at hturn hx
        obtain ⟨hleads, hcompany, hnew⟩ := ih hports hx hsub' (before ++ [Start.slot 0 ⟨p.1, p.2, .ok w⟩])
        rw [Desktop.begun_withLast, Desktop.withLast_withLast] at hleads hcompany
        rw [Desktop.begun_withLast] at hnew
        rw [List.append_assoc] at hcompany
        rw [List.append_assoc ws, List.append_assoc before] at hleads
        exact ⟨.trans ⟨1, hstep⟩ (hturn.trans hleads), hcompany, (fun v hv => by cases hv; exact hc), hnew⟩

/-- A later round: every creation that is not finished has its next turn. -/
theorem leads_round {xs : List Start} (pre : List Window) (h : b.Anonymous (pre ++ xs.filterMap (Start.present b.page round)))
    (hsub : ∀ l, sw.has l → b.isLive l.id) (hnew : ∀ x ∈ xs, ∀ w, x.built = .ok w → w.constructed = false)
    (before : List Slot) :
    Leads ⟨⟨b.joinedBy (pre ++ xs.filterMap (Start.present b.page round)), sw⟩,
        .turn ⟨before, xs.map (Start.slot round), next⟩, stack⟩
      ⟨⟨(b.withLast (xs.filterMap (Start.completedIn (round + 1))).getLast?).joinedBy
        (pre ++ xs.filterMap (Start.present b.page (round + 1))), sw⟩,
        .turn ⟨before ++ xs.map (Start.slot (round + 1)), [], next⟩, stack⟩ ∧
      (b.withLast (xs.filterMap (Start.completedIn (round + 1))).getLast?).Anonymous
        (pre ++ xs.filterMap (Start.present b.page (round + 1))) := by
  induction xs generalizing b pre before with
  | nil =>
    simp only [List.map_nil, List.filterMap_nil, List.append_nil] at h ⊢
    exact ⟨.refl _, h⟩
  | cons x xs ih =>
    obtain ⟨hx, hnew⟩ := List.forall_mem_cons.1 hnew
    rw [filterMap_cons_toList, ← List.append_assoc] at h ⊢
    rw [getLast?_filterMap_cons, filterMap_cons_toList, ← List.append_assoc, List.map_cons, List.map_cons]
    generalize hrest : xs.map (Start.slot round) = rest at ih ⊢
    cases hu : x.unfinished round with
    | none =>
      obtain ⟨hslot, hpresent, hdone⟩ := Start.ended_succ b.page hu
      have hstep : step ⟨⟨b.joinedBy (pre ++ (x.present b.page round).toList ++
            xs.filterMap (Start.present b.page round)), sw⟩, .turn ⟨before, x.slot round :: rest, next⟩, stack⟩ =
          ⟨⟨b.joinedBy (pre ++ (x.present b.page round).toList ++ xs.filterMap (Start.present b.page round)), sw⟩,
            .turn ⟨before ++ [x.slot round], rest, next⟩, stack⟩ := by
        rw [Start.slot_of_ended hu]
        rfl
      obtain ⟨hleads, hend⟩ := ih _ h hsub hnew (before ++ [x.slot round])
      rw [List.append_assoc before] at hleads
      rw [hslot, hpresent, hdone, Option.or_none]
      exact ⟨.trans ⟨1, hstep⟩ hleads, hend⟩
    | some w =>
      obtain ⟨hbuilt, hr⟩ := Start.unfinished_eq_some hu
      rw [Start.present_of_unfinished hu, Option.toList_some, List.append_assoc, List.singleton_append] at h ⊢
      obtain ⟨hturn, hx'⟩ := leads_turn h hsub hbuilt (hx w hbuilt) hr ⟨before, rest, next⟩ stack
      obtain ⟨hleads, hend⟩ := ih _ hx' hsub hnew (before ++ [x.slot (round + 1)])
      rw [Desktop.withLast_withLast] at hleads hend
      rw [List.append_assoc before] at hleads
      rw [Start.slot_of_unfinished hu]
      exact ⟨(leads_step _).trans (hturn.trans hleads), hend⟩

/-- All rounds after the first. -/
theorem leads_rounds {xs : List Start} (h : b.Anonymous (xs.filterMap (Start.present b.page 0)))
    (hsub : ∀ l, sw.has l → b.isLive l.id) (hnew : ∀ x ∈ xs, ∀ w, x.built = .ok w → w.constructed = false)
    (halone : Waiting.alone stack) (n : Nat) :
    Leads ⟨⟨b.joinedBy (xs.filterMap (Start.present b.page 0)), sw⟩, .turn ⟨xs.map (Start.slot 0), [], next⟩, stack⟩
      ⟨⟨(b.withLast (Start.completedUpTo xs n)).joinedBy (xs.filterMap (Start.present b.page n)), sw⟩,
        .turn ⟨xs.map (Start.slot n), [], next⟩, stack⟩ ∧
      (b.withLast (Start.completedUpTo xs n)).Anonymous (xs.filterMap (Start.present b.page n)) := by
  induction n with
  | zero => exact ⟨.refl _, h⟩
  | succ n ih =>
    obtain ⟨hleads, hn⟩ := ih
    have hlast : (b.withLast (Start.completedUpTo xs n)).withLast (xs.filterMap (Start.completedIn (n + 1))).getLast? =
        b.withLast (Start.completedUpTo xs (n + 1)) := by
      rw [Desktop.withLast_withLast, Start.completedUpTo_succ]
    by_cases hended : ∀ x ∈ xs, x.unfinished n = none
    · -- Nothing is left to do: the round before has been the last.
      have hsucc : ∀ x ∈ xs, _ := fun x hx => Start.ended_succ b.page (hended x hx)
      have hslots : xs.map (Start.slot (n + 1)) = xs.map (Start.slot n) :=
        List.map_congr_left fun x hx => (hsucc x hx).1
      have hpresent : xs.filterMap (Start.present b.page (n + 1)) = xs.filterMap (Start.present b.page n) :=
        List.filterMap_congr fun x hx => (hsucc x hx).2.1
      have hdone : xs.filterMap (Start.completedIn (n + 1)) = [] :=
        List.filterMap_eq_nil_iff.2 fun x hx => (hsucc x hx).2.2
      rw [← hlast, hdone, hslots, hpresent]
      exact ⟨hleads, hn⟩
    · have hnone : Slot.results (xs.map (Start.slot n)) = none := by
        obtain ⟨x, hx⟩ := not_forall.1 hended
        obtain ⟨hx, hu⟩ := Classical.not_imp.1 hx
        obtain ⟨w, hw⟩ := Option.ne_none_iff_exists'.1 hu
        obtain ⟨before, after, rfl⟩ := List.append_of_mem hx
        rw [List.map_append, List.map_cons, Start.slot_of_unfinished hw]
        exact Slot.results_append_cons rfl _ _
      -- Code that waits for these creations pauses with them and leads back to them.
      obtain ⟨hround, hend⟩ := leads_round next stack [] hn hsub hnew []
      rw [hlast] at hround hend
      exact ⟨hleads.trans (.trans (repeats_of_alone halone _ _ hnone) hround), hend⟩

/-- After all rounds the desktop is as if the creations had been made in turn. -/
theorem leads_schedule {ps : List (Plan × Nat)} (hports : ∀ p ∈ ps, p.1.spec.address = none) (h : b.Anonymous [])
    (hsub : ∀ l, sw.has l → b.isLive l.id) (halone : Waiting.alone stack) {answers : List Created}
    (hd : b.createInTurn (ps.map Prod.fst) = (d, answers)) :
    Leads ⟨⟨b, sw⟩, .run (.create (ps.map fun p => p.1.creation p.2) next), stack⟩
      ⟨⟨{ d with lastCreated := (completions (ps.map Prod.snd) answers).getLast?.or b.lastCreated }, sw⟩,
        .run (next answers), stack⟩ := by
  obtain ⟨hwindows, hpage, hlast⟩ := b.begun_same ps
  have hpauses : ps.map Prod.snd = (b.begun ps).2.map Start.pauses := by
    conv_lhs => rw [← b.begun_plans ps, List.map_map]
    rfl
  obtain ⟨hturns, -⟩ := h.createInTurn hports
  rw [Desktop.joinedBy_nil, hd] at hturns
  obtain ⟨hfirst, hcompany, hnew⟩ := leads_begun next stack hports h hsub []
  rw [Desktop.joinedBy_nil, List.nil_append, List.nil_append] at hfirst
  rw [List.nil_append] at hcompany
  rw [hpauses]
  generalize (b.begun ps).1 = b' at *
  generalize (b.begun ps).2 = xs at *
  rw [← hpage] at hfirst hcompany hturns
  have hsub' : ∀ l, sw.has l → b'.isLive l.id := fun l hl => (Desktop.isLive_congr hwindows l.id).trans (hsub l hl)
  -- As many rounds as the longest creation takes leave none unfinished.
  obtain ⟨hrounds, -⟩ := leads_rounds next stack hcompany hsub' hnew halone ((xs.map Start.pauses).foldr max 0)
  have hended : ∀ x ∈ xs, x.unfinished ((xs.map Start.pauses).foldr max 0) = none := fun x hx =>
    Start.unfinished_eq_none (le_foldr_max (List.mem_map_of_mem hx))
  have hslots : xs.map (Start.slot ((xs.map Start.pauses).foldr max 0)) = (xs.map Start.answer).map .ended := by
    rw [List.map_map]
    exact List.map_congr_left fun x hx => Start.slot_of_ended (hended x hx)
  have hpresent : xs.filterMap (Start.present b'.page ((xs.map Start.pauses).foldr max 0)) =
      xs.filterMap (Start.kept b'.page) :=
    List.filterMap_congr fun x hx => Start.present_of_ended (hended x hx)
  rw [show (b'.withLast _).page = b'.page from rfl, hslots, hpresent, Desktop.withLast_withLast,
    ← Start.getLast?_completions] at hrounds
  obtain ⟨rfl, rfl⟩ := Prod.mk.inj hturns
  have hdesktop : { (b'.withLast (xs.filterMap fun x => x.answer.toOption).getLast?).joinedBy
        ([] ++ xs.filterMap (Start.kept b'.page)) with
      lastCreated := (completions (xs.map Start.pauses) (xs.map Start.answer)).getLast?.or b.lastCreated } =
      (b'.withLast (completions (xs.map Start.pauses) (xs.map Start.answer)).getLast?).joinedBy
        (xs.filterMap (Start.kept b'.page)) := by
    rw [← hlast]
    rfl
  have hbegin := step_create ⟨b, sw⟩ stack (ps.map fun p => p.1.creation p.2) next
  rw [List.map_map] at hbegin
  rw [hdesktop]
  exact .trans ⟨1, hbegin⟩ (hfirst.trans (hrounds.trans ⟨1, step_results _ stack _ next⟩))

end Machine

/-! ## Any schedule -/

variable {d₀ d : Desktop} {m : Machine} {ms : List Machine}

/-- What creations come to whose hooks only pause, given the desktop `d` and the answers
if they were made in turn. -/
structure Scheduled (m : Machine) (pauses : List Nat) (next : List Created → Program) (d : Desktop)
    (answers : List Created) : Prop where
  /-- The pauses only matter to which window was completed last. -/
  leads : m.Leads ⟨⟨{ d with lastCreated := (completions pauses answers).getLast?.or m.desktop.lastCreated },
    m.session.switchboard⟩, .run (next answers), m.stack⟩
  /-- Every accepted window is completed once. -/
  once : (completions pauses answers).Perm (accepted answers)
  /-- The accepted windows stand above all others in the order of the request. -/
  stack : d.stack = m.desktop.stack ++ accepted answers

/-- Where no other creation goes on at the same time, what comes of creations is decided
by their plans, whatever the numbers of pauses; only the last completion is not. -/
theorem run_schedule (h₀ : d₀.IsNew) (h : Run d₀ (m :: ms)) {ps : List (Plan × Nat)} {next : List Created → Program}
    (hm : m.phase = .run (.create (ps.map fun p => p.1.creation p.2) next)) (halone : Waiting.alone m.stack)
    (hports : ∀ p ∈ ps, p.1.spec.address = none) {answers : List Created}
    (hd : m.desktop.createInTurn (ps.map Prod.fst) = (d, answers)) : Scheduled m (ps.map Prod.snd) next d answers := by
  have hst := run_stackedAs h₀ h
  have hb := (run_sound h₀ h).anonymous hst
  have hsub := run_subscribed h
  obtain ⟨⟨b, sw⟩, phase, stack⟩ := m
  obtain rfl : phase = _ := hm
  have hlength : answers.length = (ps.map Prod.snd).length := by
    have hturns := b.length_createInTurn (ps.map Prod.fst)
    rw [List.length_map] at hturns ⊢
    exact (congrArg (fun x => x.2.length) hd).symm.trans hturns
  exact ⟨Machine.leads_schedule next stack hports hb hsub halone hd, completions_perm hlength.le,
    hb.stack_createInTurn hst hports hd⟩

/-- Three plans with the pauses of their hooks. The first is the last to come to an end,
and the second is rejected. -/
def threePlans : List (Plan × Nat) :=
  [(⟨{ kind := "note" }, .ok true⟩, 2), (⟨{ kind := "note" }, .ok false⟩, 0), (⟨{ kind := "note" }, .ok true⟩, 1)]

/-- A host that makes its creations at once. -/
def threeAtOnce : Program := .create (threePlans.map fun p => p.1.creation p.2) fun _ => .accept

theorem run_schedule_threeAtOnce :
    let m := Machine.start { desktop := .plain } threeAtOnce
    let answers : List Created := [.ok ⟨1⟩, .error (.rejected "note"), .ok ⟨3⟩]
    (∃ d, Scheduled m [2, 0, 1] (fun _ => .accept) d answers ∧ d.stack = [⟨1⟩, ⟨3⟩]) ∧
      completions [2, 0, 1] answers = [⟨3⟩, ⟨1⟩] := by
  intro m answers
  have hd : m.desktop.createInTurn (threePlans.map Prod.fst) =
      ((m.desktop.createInTurn (threePlans.map Prod.fst)).1, answers) := Prod.ext rfl rfl
  have hports : ∀ p ∈ threePlans, p.1.spec.address = none := by simp [threePlans]
  have hscheduled := run_schedule Desktop.isNew_plain (Run.moments threeAtOnce 0) rfl rfl hports hd
  have hbefore : m.desktop.stack = [] := by decide +kernel
  exact ⟨⟨_, hscheduled, hscheduled.stack.trans (congrArg (· ++ accepted answers) hbefore)⟩, rfl⟩

end FloatingPanels

import FloatingPanels.Proofs.Integrity
/-!
# Delivery of broadcasts

A broadcast takes a list of targets when it begins, and comes to them one after the
other, while the handlers it calls may do to the session what they like. Its `Course`
notes at which moment it comes to which target, and which handlers it calls.
`run_delivery` says that it comes to each target once, calls exactly those that are
live and have a handler then, and answers how many it called.
-/

namespace FloatingPanels

/-- A target of a broadcast, and the moment at which the broadcast comes to it. -/
structure Turn where
  id : WindowId
  moment : Machine

/-- What has come of a broadcast so far. -/
structure Course where
  turns : List Turn := []
  /-- The windows whose handlers were called. -/
  invoked : List WindowId := []
  moment : Machine

namespace Machine

def isDelivering (m : Machine) : Bool :=
  match m.phase with
  | .deliver _ => true
  | _ => false

/-- Whether the broadcast that `b` was about to begin is going on: something stands on
top of what waited then, or the next target is to come. -/
def delivers (m b : Machine) : Bool :=
  b.stack.length < m.stack.length || b.stack.length = m.stack.length && m.isDelivering

/-- The turns that come with the next step: the broadcast passes over targets without a
handler to the first that has one. -/
def turns (m b : Machine) : List Turn :=
  match m.phase with
  | .deliver d =>
    if b.stack.length = m.stack.length then
      (m.session.switchboard.reached d.tag d.targets).map fun id => ⟨id, m⟩
    else []
  | _ => []

/-- The window whose handler the next step calls for the broadcast that began at `b`:
the call comes right on top of what waited then. -/
def invoked? (m b : Machine) : Option WindowId :=
  match m.step.stack with
  | .call l _ _ :: rest =>
    if b.stack.length = m.stack.length ∧ b.stack.length = rest.length then some l.id else none
  | _ => none

end Machine

namespace Course

/-- One more step of a broadcast, as long as it goes on. -/
def next (b : Machine) (c : Course) : Course :=
  if c.moment.delivers b then
    ⟨c.turns ++ c.moment.turns b, c.invoked ++ (c.moment.invoked? b).toList, c.moment.step⟩
  else c

/-- The first `n` steps of the broadcast that `b` is about to begin. -/
def ofSteps (b : Machine) (n : Nat) : Course := (next b)^[n] { moment := b.step }

end Course

/-! ## Where a broadcast stands -/

/-- A broadcast that began as `D` with `base` waiting is about to come to its next
target, is calling a handler, or is over. -/
inductive Stage (D : Delivery) (base : List Waiting) (m : Machine) (turned : List WindowId) : Nat → Prop
  | coming {count : Nat} (targets : List WindowId) (hs : m.stack = base)
      (hp : m.phase = .deliver { D with targets, count }) (ht : D.targets = turned ++ targets) :
      Stage D base m turned count
  | calling {count : Nat} (above : List Waiting) (l : Line) (h : Handler) (targets : List WindowId)
      (hs : m.stack = above ++ .call l h { D with targets, count } :: base) (ht : D.targets = turned ++ targets) :
      Stage D base m turned (count + 1)
  | finished {count : Nat} (hs : m.stack = base) (hp : m.phase = .run (D.next count)) (ht : D.targets = turned) :
      Stage D base m turned count

variable {D : Delivery} {b m : Machine} {turned : List WindowId} {count : Nat}

theorem turns_above (h : b.stack.length < m.stack.length) : m.turns b = [] ∧ m.invoked? b = none := by
  have hne : b.stack.length ≠ m.stack.length := Nat.ne_of_lt h
  constructor
  · unfold Machine.turns
    split
    · exact if_neg hne
    · rfl
  · unfold Machine.invoked?
    split
    · exact if_neg fun hc => hne hc.1
    · rfl

/-- Whatever a handler does, the broadcast waits under it until it ends. -/
theorem stage_calling (above : List Waiting) (l : Line) (h : Handler) (targets : List WindowId)
    (hs : m.stack = above ++ .call l h { D with targets, count } :: b.stack)
    (ht : D.targets = turned ++ targets) : Stage D b.stack m.step turned (count + 1) := by
  cases m.step_stack with
  | grow ws h' => exact .calling (ws ++ above) l h targets (by rw [h', hs, List.append_assoc]) ht
  | under w ws rest h₁ h' hw =>
    rw [hs] at h₁
    cases above with
    | nil =>
      -- What is replaced is not the call itself.
      exact absurd (List.cons.inj h₁).1.symm (hw _ _ _)
    | cons w' above =>
      rw [List.cons_append] at h₁
      obtain ⟨-, rfl⟩ := List.cons.inj h₁
      exact .calling (ws ++ above) l h targets (by rw [h', List.append_assoc]) ht
  | back l' h' d h₁ hp =>
    rw [hs] at h₁
    cases above with
    | nil =>
      obtain ⟨hw, hbase⟩ := List.cons.inj h₁
      cases hw
      exact .coming targets hbase.symm hp ht
    | cons w above =>
      obtain ⟨-, hrest⟩ := List.cons.inj h₁
      exact .calling above l h targets hrest.symm ht

/-- What the next step adds to a course: each turn is a call exactly if there is a
handler, and the handler gets what was broadcast. -/
structure Faithful (D : Delivery) (b m : Machine) : Prop where
  invoked : (m.invoked? b).toList =
    ((m.turns b).filter fun t => t.moment.session.switchboard.has ⟨t.id, D.tag⟩).map Turn.id
  handler : ∀ id, m.invoked? b = some id → ∃ h, m.session.switchboard.handler? ⟨id, D.tag⟩ = some h ∧
    m.step.phase = .run (h D.payload D.extra)

theorem turns_coming {targets : List WindowId} (hs : m.stack = b.stack)
    (hp : m.phase = .deliver { D with targets, count }) :
    m.turns b = (m.session.switchboard.reached D.tag targets).map fun id => ⟨id, m⟩ := by
  rw [Machine.turns, hp]
  exact if_pos (congrArg List.length hs.symm)

/-- No target is left that has a handler: the broadcast is over. -/
theorem stage_last {targets : List WindowId} (hs : m.stack = b.stack)
    (hp : m.phase = .deliver { D with targets, count }) (ht : D.targets = turned ++ targets)
    (hn : m.session.switchboard.nextTarget D.tag targets = none) :
    Stage D b.stack m.step (turned ++ (m.turns b).map Turn.id) (count + (m.invoked? b).toList.length) ∧
      Faithful D b m := by
  obtain ⟨hreached, hnone⟩ := Switchboard.nextTarget_none hn
  have hstep : m.step = m.goto (.run (D.next count)) := by simp only [Machine.step, hp, Machine.deliver, hn]
  have hturns := turns_coming hs hp
  rw [hreached] at hturns
  have hinvoked : m.invoked? b = none := by
    rw [Machine.invoked?, hstep]
    simp only [Machine.goto, hs]
    split
    · rename_i l h d rest hb
      refine if_neg fun hc => ?_
      rw [hb, List.length_cons] at hc
      exact Nat.succ_ne_self _ hc.2
    · rfl
  rw [hinvoked, hturns]
  refine ⟨.finished (by rw [hstep]; exact hs) (by rw [hstep]; rfl) ?_, ⟨?_, ?_⟩⟩
  · simpa [Function.comp_def] using ht
  · rw [hinvoked, hturns, eq_comm, Option.toList_none, List.map_eq_nil_iff, List.filter_eq_nil_iff]
    intro t htm
    obtain ⟨id, hid, rfl⟩ := List.mem_map.1 htm
    simp [hnone id hid]
  · intro id hid
    rw [hinvoked] at hid
    cases hid

/-- The next target that has a handler is called. -/
theorem stage_call {targets rest : List WindowId} {id : WindowId} {h : Handler} {s : Switchboard}
    (hs : m.stack = b.stack) (hp : m.phase = .deliver { D with targets, count }) (ht : D.targets = turned ++ targets)
    (hn : m.session.switchboard.nextTarget D.tag targets = some (id, h, s, rest)) :
    Stage D b.stack m.step (turned ++ (m.turns b).map Turn.id) (count + (m.invoked? b).toList.length) ∧
      Faithful D b m := by
  obtain ⟨htake, passed, hreached, hids, hnone⟩ := Switchboard.nextTarget_some hn
  have hhandler := (Switchboard.take?_eq_some htake).1
  have hstep : m.step = { (m.withSwitchboard s) with
      phase := .run (h D.payload D.extra)
      stack := .call ⟨id, D.tag⟩ h { D with targets := rest, count } :: m.stack } := by
    simp only [Machine.step, hp, Machine.deliver, hn]
  have hturns := turns_coming hs hp
  rw [hreached] at hturns
  have hinvoked : m.invoked? b = some id := by
    rw [Machine.invoked?, hstep]
    exact if_pos ⟨congrArg List.length hs.symm, congrArg List.length hs.symm⟩
  rw [hinvoked, hturns]
  refine ⟨.calling [] ⟨id, D.tag⟩ h rest (by rw [hstep, ← hs]; rfl) ?_, ⟨?_, ?_⟩⟩
  · rw [ht, hids]
    simp [Function.comp_def]
  · have hskip : (passed.map fun i => (⟨i, m⟩ : Turn)).filter
        (fun t => t.moment.session.switchboard.has ⟨t.id, D.tag⟩) = [] := by
      refine List.filter_eq_nil_iff.2 fun t htm => ?_
      obtain ⟨i, hi, rfl⟩ := List.mem_map.1 htm
      simp [hnone i hi]
    rw [hinvoked, hturns, List.map_append, List.filter_append, hskip]
    simp [Switchboard.has_eq, hhandler]
  · rw [hinvoked]
    intro i hi
    cases hi
    exact ⟨h, hhandler, by rw [hstep]⟩

/-- One step of a broadcast that is going on. -/
theorem Stage.next (h : Stage D b.stack m turned count) (hm : m.delivers b) :
    Stage D b.stack m.step (turned ++ (m.turns b).map Turn.id) (count + (m.invoked? b).toList.length) ∧
      Faithful D b m := by
  cases h with
  | coming targets hs hp ht =>
    cases hn : m.session.switchboard.nextTarget D.tag targets with
    | none => exact stage_last hs hp ht hn
    | some t => exact stage_call hs hp ht hn
  | calling above l handler targets hs ht =>
    have hlt : b.stack.length < m.stack.length := by
      rw [hs, List.length_append, List.length_cons]
      omega
    obtain ⟨hturns, hinvoked⟩ := turns_above hlt
    rw [hturns, hinvoked, List.map_nil, List.append_nil]
    refine ⟨stage_calling above l handler targets hs ht, ⟨?_, ?_⟩⟩
    · rw [hturns, hinvoked]
      rfl
    · intro id hid
      rw [hinvoked] at hid
      cases hid
  | finished hs hp ht =>
    have : m.delivers b = false := by simp [Machine.delivers, Machine.isDelivering, hs, hp]
    rw [this] at hm
    cases hm

theorem Stage.turned_prefix (h : Stage D b.stack m turned count) : turned <+: D.targets := by
  cases h with
  | coming targets _ _ ht => exact ⟨targets, ht.symm⟩
  | calling _ _ _ targets _ ht => exact ⟨targets, ht.symm⟩
  | finished _ _ ht => exact ht ▸ List.prefix_rfl

/-- A broadcast that is over has nothing on top of what waited when it began. -/
theorem Stage.ended (h : Stage D b.stack m turned count) (hm : m.delivers b = false) :
    D.targets = turned ∧ m.stack = b.stack ∧ m.phase = .run (D.next count) := by
  cases h with
  | coming targets hs hp ht =>
    simp [Machine.delivers, Machine.isDelivering, hs, hp] at hm
  | calling above l handler targets hs ht =>
    simp [Machine.delivers, hs] at hm
    omega
  | finished hs hp ht => exact ⟨ht, hs, hp⟩

/-! ## Whole broadcasts -/

/-- Whether the target of a turn is live and has a handler when its turn comes. -/
def Turn.isReady (tag : String) (t : Turn) : Bool :=
  t.moment.desktop.isLive t.id && t.moment.session.switchboard.has ⟨t.id, tag⟩

theorem moment_of_turn {t : Turn} (h : t ∈ m.turns b) : t.moment = m := by
  unfold Machine.turns at h
  split at h
  · split at h
    · obtain ⟨id, -, rfl⟩ := List.mem_map.1 h
      rfl
    · cases h
  · cases h

/-- What has come of a broadcast agrees with where it stands. -/
structure Course.Agrees (d₀ : Desktop) (D : Delivery) (b : Machine) (c : Course) : Prop where
  run : ∃ ms, Run d₀ (c.moment :: ms)
  stage : Stage D b.stack c.moment (c.turns.map Turn.id) c.invoked.length
  invoked : c.invoked = (c.turns.filter (Turn.isReady D.tag)).map Turn.id

theorem Course.Agrees.next {d₀ : Desktop} {c : Course} (h : c.Agrees d₀ D b) : (c.next b).Agrees d₀ D b := by
  unfold Course.next
  split
  · rename_i hm
    obtain ⟨ms, hrun⟩ := h.run
    obtain ⟨hstage, hfaithful⟩ := h.stage.next hm
    -- A window with a handler is live.
    have hready : (c.moment.turns b).filter (Turn.isReady D.tag) =
        (c.moment.turns b).filter fun t => t.moment.session.switchboard.has ⟨t.id, D.tag⟩ := by
      refine List.filter_congr fun t ht => ?_
      rw [Turn.isReady, moment_of_turn ht, Bool.eq_iff_iff, Bool.and_eq_true]
      exact ⟨And.right, fun hh => ⟨run_subscribed hrun _ hh, hh⟩⟩
    refine ⟨⟨_, hrun.next .step⟩, ?_, ?_⟩
    · rw [List.map_append, List.length_append]
      exact hstage
    · rw [List.filter_append, List.map_append, hready, ← hfaithful.invoked, ← h.invoked]
  · exact h

/-- What holds of a broadcast of `tag` from `b` on, whatever its handlers do. -/
structure Delivered (b : Machine) (tag : String) (payload extra : Value) (next : Nat → Program) (c : Course) : Prop where
  /-- The targets are the live windows with a handler when the broadcast begins. -/
  targets : ∀ id, id ∈ b.session.switchboard.subscribers b.desktop tag ↔
    b.desktop.isLive id ∧ b.session.switchboard.has ⟨id, tag⟩
  increasing : (b.session.switchboard.subscribers b.desktop tag).Pairwise fun i j => i.number < j.number
  /-- It comes to each of them once, in turn. -/
  turns : c.turns.map Turn.id <+: b.session.switchboard.subscribers b.desktop tag
  /-- At its turn a target is left out exactly if it is gone or has no handler. -/
  invoked : c.invoked = (c.turns.filter (Turn.isReady tag)).map Turn.id
  invoked_increasing : c.invoked.Pairwise fun i j => i.number < j.number
  /-- A window that is created or subscribed for the first time since is never called. -/
  invoked_before : ∀ id ∈ c.invoked, b.desktop.isLive id ∧ b.session.switchboard.has ⟨id, tag⟩
  /-- What is called is the handler that the window has. -/
  handler : ∀ id, c.moment.delivers b → c.moment.invoked? b = some id →
    ∃ h, c.moment.session.switchboard.handler? ⟨id, tag⟩ = some h ∧ c.moment.step.phase = .run (h payload extra)
  /-- When it is over, all targets have had their turn and the answer is the number of
  handlers called. -/
  finished : c.moment.delivers b = false → c.turns.map Turn.id = b.session.switchboard.subscribers b.desktop tag ∧
    c.moment.stack = b.stack ∧ c.moment.phase = .run (next c.invoked.length)

theorem run_delivery {d₀ : Desktop} {bs : List Machine} (h₀ : d₀.IsNew) (h : Run d₀ (b :: bs)) {tag : String}
    {payload extra : Value} {next : Nat → Program} (hb : b.phase = .run (.broadcast tag payload extra next)) (n : Nat) :
    Delivered b tag payload extra next (.ofSteps b n) := by
  have hstep : b.step = b.goto (.deliver ⟨tag, payload, extra,
      b.session.switchboard.subscribers b.desktop tag, 0, next⟩) := by
    simp only [Machine.step, hb, Machine.request]
  -- By induction on the steps since the broadcast began.
  have hagrees : (Course.ofSteps b n).Agrees d₀ ⟨tag, payload, extra,
      b.session.switchboard.subscribers b.desktop tag, 0, next⟩ b := by
    induction n with
    | zero =>
      have hs : b.step.stack = b.stack := by rw [hstep, Machine.goto]
      have hp := congrArg Machine.phase hstep
      exact ⟨⟨_, h.next .step⟩, .coming _ hs hp rfl, rfl⟩
    | succ n ih =>
      rw [Course.ofSteps, Function.iterate_succ_apply']
      exact ih.next
  have hincreasing : (b.session.switchboard.subscribers b.desktop tag).Pairwise fun i j => i.number < j.number := by
    refine List.Pairwise.filter _ ?_
    rw [Desktop.ids_eq]
    exact List.pairwise_map.2 (run_sound h₀ h).increasing
  have hturns : (Course.ofSteps b n).turns.map Turn.id <+: b.session.switchboard.subscribers b.desktop tag :=
    hagrees.stage.turned_prefix
  have htargets : ∀ id, id ∈ b.session.switchboard.subscribers b.desktop tag ↔
      b.desktop.isLive id ∧ b.session.switchboard.has ⟨id, tag⟩ := by
    intro id
    rw [Switchboard.subscribers, List.mem_filter, Desktop.isLive_iff_mem_ids]
  refine ⟨htargets, hincreasing, hturns, hagrees.invoked, ?_, fun id hid => ?_, fun id hm hi => ?_, fun hm => ?_⟩
  · rw [hagrees.invoked]
    exact (hincreasing.sublist hturns.sublist).sublist (List.filter_sublist.map _)
  · rw [hagrees.invoked] at hid
    obtain ⟨t, ht, rfl⟩ := List.mem_map.1 hid
    exact (htargets t.id).1 (hturns.subset (List.mem_map_of_mem (List.mem_filter.1 ht).1))
  · exact (hagrees.stage.next hm).2.handler id hi
  · obtain ⟨ht, hs, hp⟩ := hagrees.stage.ended hm
    exact ⟨ht.symm, hs, hp⟩

/-- A host that creates three windows with handlers, of which the first destroys the
second window. -/
def destroyNext : Program :=
  let handler : Handler := fun _ _ => .accept
  let first : Handler := fun _ _ => .then_ (.destroy ⟨2⟩) .accept
  .create [.passive { kind := "note" }, .passive { kind := "note" }, .passive { kind := "note" }] fun _ =>
    .subscribe ⟨1⟩ "tag" first fun _ => .subscribe ⟨2⟩ "tag" handler fun _ =>
      .subscribe ⟨3⟩ "tag" handler fun _ => .accept

theorem run_delivery_destroyNext :
    let m := Machine.step^[40] (.start { desktop := .plain } destroyNext)
    let b := Machine.start m.session (.broadcast "tag" .null .null fun _ => .accept)
    m.isStopped ∧ Delivered b "tag" .null .null (fun _ => .accept) (.ofSteps b 20) ∧
      (Course.ofSteps b 20).moment.delivers b = false ∧ (Course.ofSteps b 20).invoked = [⟨1⟩, ⟨3⟩] := by
  intro m b
  have hm : m.isStopped := by decide +kernel
  have hrun : Run .plain (Machine.moments (.start { desktop := .plain } destroyNext) 40) := .moments destroyNext 40
  exact ⟨hm, run_delivery Desktop.isNew_plain (hrun.next (.again _ hm)) rfl 20, by decide +kernel⟩

end FloatingPanels

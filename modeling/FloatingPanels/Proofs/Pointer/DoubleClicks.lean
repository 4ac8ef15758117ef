import FloatingPanels.Mouse
import Mathlib.Data.List.Chain
/-!
# Double clicks

Of all mouse events only the left presses matter for double clicks, and of those only the one
before. The router remembers that one as long as it can still become part of a double click,
so a press is a double click exactly if the press before it was single, at the same place and
not long ago. No press counts twice, and presses in quick succession pair up.
-/

namespace FloatingPanels

/-- A left press as the router passes it on: single, or as the second of a double click. -/
structure Press where
  time : Nat
  point : Point
  double : Bool
  deriving DecidableEq, Repr

namespace Press

/-- At the same place, and at most the interval later. -/
def Near (interval : Nat) (p q : Press) : Prop := p.point = q.point ∧ q.time ≤ p.time + interval

instance (interval : Nat) (p q : Press) : Decidable (Near interval p q) := inferInstanceAs (Decidable (_ ∧ _))

/-- Whether a press makes a double click with the last one before it. -/
def Completes (interval : Nat) (last : Option Press) (q : Press) : Prop :=
  ∃ p ∈ last, p.double = false ∧ Near interval p q

/-- Exactly those presses are double clicks that make one with the press before. -/
def Paired (interval : Nat) : Option Press → List Press → Prop
  | _, [] => True
  | last, q :: ps => (q.double ↔ Completes interval last q) ∧ Paired interval (some q) ps

/-- The double click of the press with the number `i` has the press `k` as one of its two. -/
def Belongs (ps : List Press) (k i : Nat) : Prop := ps[i]?.any Press.double ∧ (k = i ∨ k + 1 = i)

variable {interval : Nat} {last : Option Press} {ps : List Press}

/-! ## What the pairs come to -/

/-- A double click does not begin another. -/
theorem Paired.single_after (h : Paired interval last ps) {i : Nat} (hi : ps[i]?.any Press.double) :
    ¬ ps[i + 1]?.any Press.double := by
  induction ps generalizing last i with
  | nil => simp at hi
  | cons q ps ih =>
    cases i with
    | succ i => exact ih h.2 hi
    | zero =>
      cases ps with
      | nil => simp
      | cons q' ps =>
        intro hdouble
        obtain ⟨p, hp, hsingle, -⟩ := h.2.1.1 (by simpa using hdouble)
        rw [Option.mem_some_iff] at hp
        subst hp
        simp [hsingle] at hi

theorem Paired.belongs_unique (h : Paired interval last ps) {k i j : Nat} (hi : Belongs ps k i) (hj : Belongs ps k j) :
    i = j := by
  obtain ⟨hdi, hi⟩ := hi
  obtain ⟨hdj, hj⟩ := hj
  rcases hi with rfl | rfl
  · rcases hj with rfl | rfl
    · rfl
    · exact absurd hdj (h.single_after hdi)
  · rcases hj with rfl | rfl
    · exact absurd hdi (h.single_after hdj)
    · rfl

/-- Of presses near each other every second is a double click, the first of them if it can
complete one. -/
theorem Paired.count (h : Paired interval last ps) (hnear : (last.toList ++ ps).IsChain (Near interval)) :
    ps.countP Press.double = (ps.length + if last.any fun p => !p.double then 1 else 0) / 2 := by
  induction ps generalizing last with
  | nil => cases last with
    | none => rfl
    | some p => cases hp : p.double <;> simp [hp]
  | cons q ps ih =>
    have htail : (q :: ps).IsChain (Near interval) := hnear.right_of_append
    have ih := ih h.2 htail
    have hq := h.1
    rw [List.countP_cons, List.length_cons, ih]
    cases last with
    | none =>
      have hsingle : q.double = false := Bool.eq_false_iff.2 fun hd => by simpa [Completes] using hq.1 hd
      simp [hsingle]
    | some p =>
      have hpq : Near interval p q := (List.isChain_cons_cons.1 hnear).1
      cases hp : p.double with
      | false =>
        have hdouble : q.double := hq.2 ⟨p, rfl, hp, hpq⟩
        simp [hdouble, hp]
        omega
      | true =>
        have hsingle : q.double = false := Bool.eq_false_iff.2 fun hd => by simpa [Completes, hp] using hq.1 hd
        simp [hsingle, hp]

end Press

open Press

/-- The time and the place of a left press. -/
def leftPress? (x : Nat × MouseEvent) : Option (Nat × Point) :=
  if x.2.kind = .down .left then some (x.1, x.2.point) else none

namespace Router

/-- The router after some events, each with its time. -/
def after (r : Router) (events : List (Nat × MouseEvent)) : Router := events.foldl (fun r x => (r.route x.2 x.1).1) r

/-- The press that the router makes of an event. -/
def press? (r : Router) (now : Nat) (e : MouseEvent) : Option Press :=
  match (r.route e now).2 with
  | some (.pointerDown p) => some ⟨now, p, false⟩
  | some (.doubleClick p) => some ⟨now, p, true⟩
  | _ => none

/-- The presses that the router makes of some events. -/
def presses (r : Router) : List (Nat × MouseEvent) → List Press
  | [] => []
  | x :: events => (r.press? x.1 x.2).toList ++ (r.route x.2 x.1).1.presses events

variable {r : Router} {last : Option Press} {now : Nat} {e : MouseEvent}

/-! ## One event -/

theorem route_action (r : Router) (now : Nat) (hk : e.kind = .down .left) :
    (r.route e now).2 =
      some (if r.completes e.point now then .doubleClick e.point else .pointerDown e.point) := by
  cases hc : r.completes e.point now <;> simp [route, hk, hc]

theorem route_press (r : Router) (now : Nat) (hk : e.kind = .down .left) :
    r.press? now e = some ⟨now, e.point, r.completes e.point now⟩ ∧
      (r.route e now).1 = { r with pending := if r.completes e.point now then none else some (now, e.point) } := by
  cases hc : r.completes e.point now <;> simp [press?, route, hk, hc]

/-- All other events leave the router as it is. -/
theorem route_other (r : Router) (now : Nat) (hk : e.kind ≠ .down .left) :
    r.press? now e = none ∧ (r.route e now).1 = r := by
  obtain ⟨kind, column, row⟩ := e
  cases kind with
  | down b =>
    cases b with
    | left => exact absurd rfl hk
    | _ => exact ⟨rfl, rfl⟩
  | up b => cases b <;> exact ⟨rfl, rfl⟩
  | drag b => cases b <;> exact ⟨rfl, rfl⟩
  | _ => exact ⟨rfl, rfl⟩

/-- The last press is what the router has in mind, unless it was a double click. -/
def Remembers (r : Router) (last : Option Press) : Prop :=
  r.pending = last.bind fun p => if p.double then none else some (p.time, p.point)

theorem Remembers.completes_iff (h : r.Remembers last) (q : Press) :
    r.completes q.point q.time ↔ Completes r.interval last q := by
  unfold Router.completes
  rw [h]
  cases last with
  | none => simp [Completes]
  | some p => cases hp : p.double <;> simp [Completes, Near, hp, Nat.add_comm]

theorem remembers_press (r : Router) (now : Nat) (hk : e.kind = .down .left) :
    (r.route e now).1.Remembers (some ⟨now, e.point, r.completes e.point now⟩) := by
  rw [Remembers, (r.route_press _ hk).2]
  rfl

/-! ## Every list of events -/

theorem interval_route (r : Router) (now : Nat) (e : MouseEvent) : (r.route e now).1.interval = r.interval := by
  by_cases hk : e.kind = .down .left
  · rw [(r.route_press _ hk).2]
  · rw [(r.route_other _ hk).2]

theorem presses_cons_press (hk : e.kind = .down .left) (events : List (Nat × MouseEvent)) :
    r.presses ((now, e) :: events) =
      ⟨now, e.point, r.completes e.point now⟩ :: (r.route e now).1.presses events := by
  rw [presses, (r.route_press _ hk).1]
  rfl

theorem presses_cons_other (hk : e.kind ≠ .down .left) (events : List (Nat × MouseEvent)) :
    r.presses ((now, e) :: events) = r.presses events := by
  obtain ⟨hnone, hsame⟩ := r.route_other now hk
  rw [presses, hnone, hsame]
  rfl

/-- The left presses all come through, in their order. -/
theorem map_presses (r : Router) (events : List (Nat × MouseEvent)) :
    (r.presses events).map (fun p => (p.time, p.point)) = events.filterMap leftPress? := by
  induction events generalizing r with
  | nil => rfl
  | cons x events ih =>
    by_cases hk : x.2.kind = .down .left
    · have hpress : leftPress? x = some (x.1, x.2.point) := if_pos hk
      rw [presses_cons_press hk, List.map_cons, ih, List.filterMap_cons_some hpress]
    · have hnone : leftPress? x = none := if_neg hk
      rw [presses_cons_other hk, ih, List.filterMap_cons_none hnone]

theorem Remembers.paired (h : r.Remembers last) (events : List (Nat × MouseEvent)) :
    Paired r.interval last (r.presses events) := by
  induction events generalizing r last with
  | nil => exact trivial
  | cons x events ih =>
    obtain ⟨now, e⟩ := x
    by_cases hk : e.kind = .down .left
    · rw [presses_cons_press hk]
      have hrest := ih (r.remembers_press now hk)
      rw [interval_route] at hrest
      exact ⟨h.completes_iff ⟨now, e.point, r.completes e.point now⟩, hrest⟩
    · rw [presses_cons_other hk]
      exact ih h

/-- After some events the router has the last press of them in mind. -/
theorem Remembers.after (h : r.Remembers last) (events : List (Nat × MouseEvent)) :
    (r.after events).Remembers ((r.presses events).getLast?.or last) := by
  induction events generalizing r last with
  | nil => exact h
  | cons x events ih =>
    obtain ⟨now, e⟩ := x
    by_cases hk : e.kind = .down .left
    · have hrest := ih (r.remembers_press now hk)
      rw [presses_cons_press hk, List.getLast?_cons]
      cases hlast : ((r.route e now).1.presses events).getLast? with
      | none => rwa [hlast] at hrest
      | some p => rwa [hlast] at hrest
    · rw [presses_cons_other hk]
      have hsame : r.after ((now, e) :: events) = r.after events :=
        congrArg (fun r' : Router => r'.after events) (r.route_other _ hk).2
      rw [hsame]
      exact ih h

theorem interval_after (r : Router) (events : List (Nat × MouseEvent)) : (r.after events).interval = r.interval := by
  induction events generalizing r with
  | nil => rfl
  | cons x events ih => exact (ih _).trans (interval_route r x.1 x.2)

/-- Every left press comes through, as a double click if and only if it makes one with the press
before it. No press belongs to two double clicks, and of presses near each other one half,
rounded down, are double clicks. Whatever the times are: one that goes back is never too late. -/
theorem presses_paired (interval : Nat) (events : List (Nat × MouseEvent)) :
    (presses { interval } events).map (fun p => (p.time, p.point)) = events.filterMap leftPress? ∧
      Paired interval none (presses { interval } events) ∧
      (∀ k i j, Belongs (presses { interval } events) k i → Belongs (presses { interval } events) k j → i = j) ∧
      ((presses { interval } events).IsChain (Near interval) →
        (presses { interval } events).countP Press.double = (presses { interval } events).length / 2) := by
  have hnew : Remembers { interval } none := rfl
  have hpaired := hnew.paired events
  exact ⟨map_presses _ events, hpaired, fun _ _ _ hi hj => hpaired.belongs_unique hi hj, fun h => hpaired.count h⟩

/-- Five presses at one place, before the last of which the clock goes back, and one of another button. -/
def fivePresses : List (Nat × MouseEvent) :=
  [(0, ⟨.down .left, 3, 1⟩), (100, ⟨.down .left, 3, 1⟩), (150, ⟨.down .right, 9, 9⟩), (200, ⟨.down .left, 3, 1⟩),
    (600, ⟨.down .left, 3, 1⟩), (500, ⟨.down .left, 3, 1⟩)]

theorem presses_paired_fivePresses :
    (presses { interval := 400 } fivePresses).IsChain (Near 400) ∧
      (presses { interval := 400 } fivePresses).countP Press.double = 2 := by
  have hnear : (presses { interval := 400 } fivePresses).IsChain (Near 400) := by decide
  exact ⟨hnear, (presses_paired 400 fivePresses).2.2.2 hnear⟩

end Router

end FloatingPanels

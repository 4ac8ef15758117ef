import FloatingPanels.Proofs.Snap.Nearest
import Mathlib.Logic.Function.Iterate
/-!
# Coming to rest

A line does not pull a side that lies on it, but the other lines of its axis go on to do
so. A rectangle that is aligned with a reference rests there only if no other one is in
reach. If one is, the rectangle comes to be aligned with that one, and has the one that it
left in reach: `snapped_aligned` says that it never rests again.
-/

namespace FloatingPanels

def Side.axis : Side → Axis
  | .left | .right => .x
  | .top | .bottom => .y

theorem Reference.axis_of_mem {others : List Rect} {viewport : Int} {a : Axis} {f : Reference}
    (h : f ∈ along others viewport a) : f.side.axis = a := by
  cases a with
  | x =>
    simp only [along, List.mem_append, List.mem_flatMap, List.mem_cons, List.not_mem_nil, or_false] at h
    rcases h with (rfl | rfl) | ⟨o, -, rfl | rfl | rfl | rfl⟩ <;> rfl
  | y =>
    simp only [along, List.mem_append, List.mem_flatMap, List.mem_cons, List.not_mem_nil, or_false] at h
    rcases h with rfl | ⟨o, -, rfl | rfl | rfl | rfl⟩ <;> rfl

namespace Rect

open Reference

/-- The left or the upper end. -/
def start (r : Rect) : Axis → Int
  | .x => r.left
  | .y => r.top

/-- The rectangle moved by its snap, if it has one. All its sides may move. -/
def snapped (others : List Rect) (viewport sensitivity : Int) (r : Rect) : Rect :=
  match r.snap .all others viewport sensitivity with
  | some s => s.move r
  | none => r

/-- A side lies on one of its lines. -/
def Aligned (others : List Rect) (viewport : Int) (r : Rect) (a : Axis) : Prop :=
  ∃ f ∈ along others viewport a, f.way r = 0

instance (others : List Rect) (viewport : Int) (r : Rect) (a : Axis) : Decidable (r.Aligned others viewport a) :=
  inferInstanceAs (Decidable (∃ f ∈ _, _))

/-- No side is in reach of a line that it does not lie on. -/
def Free (others : List Rect) (viewport sensitivity : Int) (r : Rect) (a : Axis) : Prop :=
  ∀ f ∈ along others viewport a, ¬ f.Reaches r .all sensitivity

instance (others : List Rect) (viewport sensitivity : Int) (r : Rect) (a : Axis) :
    Decidable (r.Free others viewport sensitivity a) := inferInstanceAs (Decidable (∀ f ∈ _, _))

variable {others : List Rect} {viewport sensitivity : Int} {r : Rect} {a : Axis} {f : Reference}

/-! ## One snap -/

theorem start_move (s : Snap) (r : Rect) (a : Axis) : (s.move r).start a = r.start a + s.delta a := by
  cases a <;> rfl

theorem side_move (s : Snap) (r : Rect) (side : Side) : (s.move r).side side = r.side side + s.delta side.axis := by
  cases side <;> simp only [Snap.move, shift, Rect.side, right, bottom, Side.axis, Snap.delta] <;> omega

theorem way_move (s : Snap) (hf : f ∈ along others viewport a) : f.way (s.move r) = f.way r - s.delta a := by
  rw [way, way, side_move, axis_of_mem hf]
  omega

/-- What pulls a rectangle moves it, and brings the sides of its axis nearer to their lines or
farther from them by as much. -/
theorem snapped_axis (others : List Rect) (viewport sensitivity : Int) (r : Rect) (a : Axis) :
    ∃ best, Nearest r .all sensitivity (along others viewport a) best ∧
      (r.snapped others viewport sensitivity).start a = r.start a + (best.map (way r)).getD 0 ∧
      ∀ f ∈ along others viewport a,
        f.way (r.snapped others viewport sensitivity) = f.way r - (best.map (way r)).getD 0 := by
  unfold snapped
  cases hs : r.snap .all others viewport sensitivity with
  | none => exact ⟨none, .out (snap_eq_none_iff.1 hs a), (Int.add_zero _).symm, fun f _ => (Int.sub_zero _).symm⟩
  | some s =>
    obtain ⟨best, hn, -, hdelta⟩ := snap_axis hs a
    exact ⟨best, hn, hdelta ▸ start_move s r a, fun f hf => hdelta ▸ way_move s hf⟩

theorem Free.step (h : r.Free others viewport sensitivity a) :
    (r.snapped others viewport sensitivity).start a = r.start a ∧
      (r.snapped others viewport sensitivity).Free others viewport sensitivity a := by
  obtain ⟨best, hn, hstart, hway⟩ := snapped_axis others viewport sensitivity r a
  cases best with
  | some f => exact absurd hn.reaches (h f hn.mem)
  | none =>
    simp only [Option.map_none, Option.getD_none, Int.add_zero, Int.sub_zero] at hstart hway
    refine ⟨hstart, fun f hf => ?_⟩
    have := h f hf
    simpa only [Reaches, distance, hway f hf] using this

/-- The rectangle leaves the line of one side for that of another, from where the first is
still in reach. -/
theorem Aligned.step (h : r.Aligned others viewport a) (hfree : ¬ r.Free others viewport sensitivity a) :
    (r.snapped others viewport sensitivity).start a ≠ r.start a ∧
      (r.snapped others viewport sensitivity).Aligned others viewport a ∧
      ¬ (r.snapped others viewport sensitivity).Free others viewport sensitivity a := by
  obtain ⟨g, hg, hzero⟩ := h
  obtain ⟨best, hn, hstart, hway⟩ := snapped_axis others viewport sensitivity r a
  cases best with
  | none =>
    cases hn with
    | out hout => exact absurd hout hfree
  | some f =>
    simp only [Option.map_some, Option.getD_some] at hstart hway
    obtain ⟨-, hne, hle⟩ := hn.reaches
    simp only [distance] at hne hle
    refine ⟨by omega, ⟨f, hn.mem, ?_⟩, fun hno => hno g hg ?_⟩
    · rw [hway f hn.mem]
      exact Int.sub_self _
    · have hleft := hway g hg
      refine ⟨?_, ?_, ?_⟩
      · cases g.side <;> rfl
      · simp only [distance]
        omega
      · simp only [distance]
        omega

/-! ## Repeated snaps -/

/-- Where no reference is in reach a rectangle rests under repeated snaps, and where one is,
each of them moves it. -/
structure RestsIffFree (others : List Rect) (viewport sensitivity : Int) (r : Rect) (a : Axis) : Prop where
  rests : r.Free others viewport sensitivity a → ∀ n, ((snapped others viewport sensitivity)^[n] r).start a = r.start a
  moves : ¬ r.Free others viewport sensitivity a → ∀ n,
    ((snapped others viewport sensitivity)^[n + 1] r).start a ≠ ((snapped others viewport sensitivity)^[n] r).start a

theorem Free.repeated (h : r.Free others viewport sensitivity a) (n : Nat) :
    ((snapped others viewport sensitivity)^[n] r).start a = r.start a ∧
      ((snapped others viewport sensitivity)^[n] r).Free others viewport sensitivity a := by
  induction n with
  | zero => exact ⟨rfl, h⟩
  | succ n ih =>
    rw [Function.iterate_succ_apply']
    exact ⟨ih.2.step.1.trans ih.1, ih.2.step.2⟩

theorem Aligned.repeated (h : r.Aligned others viewport a) (hfree : ¬ r.Free others viewport sensitivity a) (n : Nat) :
    ((snapped others viewport sensitivity)^[n] r).Aligned others viewport a ∧
      ¬ ((snapped others viewport sensitivity)^[n] r).Free others viewport sensitivity a := by
  induction n with
  | zero => exact ⟨h, hfree⟩
  | succ n ih =>
    rw [Function.iterate_succ_apply']
    exact (ih.1.step ih.2).2

theorem Aligned.rests (h : r.Aligned others viewport a) : r.RestsIffFree others viewport sensitivity a where
  rests hfree n := (hfree.repeated n).1
  moves hfree n := by
    obtain ⟨ha, hf⟩ := h.repeated hfree n
    rw [Function.iterate_succ_apply']
    exact (ha.step hf).1

/-- A rectangle is aligned with what it was pulled to. -/
theorem aligned_move {s : Snap} (h : r.snap .all others viewport sensitivity = some s) (hs : s.side? a ≠ none) :
    (s.move r).Aligned others viewport a := by
  obtain ⟨best, hn, hside, hdelta⟩ := snap_axis h a
  cases best with
  | none => exact absurd hside hs
  | some f =>
    refine ⟨f, hn.mem, ?_⟩
    rw [way_move s hn.mem, hdelta]
    exact Int.sub_self _

end Rect

end FloatingPanels

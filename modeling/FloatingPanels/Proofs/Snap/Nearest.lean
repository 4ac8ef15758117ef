import FloatingPanels.Snap
import FloatingPanels.Proofs.Rect
import Mathlib.Data.List.Induction
/-!
# The nearest line

A snap compares references, the pairs of a side that may move and a line, in a fixed
order. `snap_nearest` says what comes of that on each axis: the first of the nearest
references in reach pulls the rectangle, and without one there it is not pulled. A side
that pulls is then on one of its lines (`snap_line`).

In coordinates the comparisons have a result just if no number overflows, neither an end of
the rectangle nor the line, the way or the distance of a reference whose side may move
(`SnapsInRange`). Among moderate rectangles none does.
-/

namespace FloatingPanels

namespace Reference

/-- A line is an end of the viewport or a side of another rectangle. -/
theorem line_of_mem_along {others : List Rect} {viewport : Int} {a : Axis} {f : Reference}
    (h : f ∈ along others viewport a) :
    f.line = 0 ∨ f.line = viewport ∨ ∃ o ∈ others, ∃ side, f.line = o.side side := by
  cases a with
  | x =>
    simp only [along, List.mem_append, List.mem_flatMap, List.mem_cons, List.not_mem_nil, or_false] at h
    rcases h with (rfl | rfl) | ⟨o, ho, rfl | rfl | rfl | rfl⟩
    · exact .inl rfl
    · exact .inr (.inl rfl)
    · exact .inr (.inr ⟨o, ho, .left, rfl⟩)
    · exact .inr (.inr ⟨o, ho, .right, rfl⟩)
    · exact .inr (.inr ⟨o, ho, .left, rfl⟩)
    · exact .inr (.inr ⟨o, ho, .right, rfl⟩)
  | y =>
    simp only [along, List.mem_append, List.mem_flatMap, List.mem_cons, List.not_mem_nil, or_false] at h
    rcases h with rfl | ⟨o, ho, rfl | rfl | rfl | rfl⟩
    · exact .inl rfl
    · exact .inr (.inr ⟨o, ho, .top, rfl⟩)
    · exact .inr (.inr ⟨o, ho, .bottom, rfl⟩)
    · exact .inr (.inr ⟨o, ho, .top, rfl⟩)
    · exact .inr (.inr ⟨o, ho, .bottom, rfl⟩)

/-- The way of the side to its line. -/
def way (r : Rect) (f : Reference) : Int := f.line - r.side f.side

def distance (r : Rect) (f : Reference) : Nat := (f.way r).natAbs

/-- What a comparison computes are coordinates. -/
structure InRange (r : Rect) (f : Reference) : Prop where
  line : Coordinate.InRange f.line
  way : Coordinate.InRange (f.way r)
  distance : Coordinate.InRange (f.distance r)

/-- The side may move and is near its line, but not on it. -/
def Reaches (r : Rect) (movable : Sides) (sensitivity : Int) (f : Reference) : Prop :=
  movable.has f.side ∧ f.distance r ≠ 0 ∧ (f.distance r : Int) ≤ sensitivity

instance (r : Rect) (movable : Sides) (sensitivity : Int) (f : Reference) : Decidable (f.Reaches r movable sensitivity) :=
  inferInstanceAs (Decidable (_ ∧ _ ∧ _))

/-- The first of the nearest references in reach, if any is in reach. -/
inductive Nearest (r : Rect) (movable : Sides) (sensitivity : Int) (refs : List Reference) : Option Reference → Prop
  | out (hout : ∀ f ∈ refs, ¬ f.Reaches r movable sensitivity) : Nearest r movable sensitivity refs none
  | first {before after : List Reference} {f : Reference} (hrefs : refs = before ++ f :: after)
      (hf : f.Reaches r movable sensitivity)
      (hbefore : ∀ g ∈ before, g.Reaches r movable sensitivity → f.distance r < g.distance r)
      (hafter : ∀ g ∈ after, g.Reaches r movable sensitivity → f.distance r ≤ g.distance r) :
      Nearest r movable sensitivity refs (some f)

variable {r : Rect} {movable : Sides} {sensitivity : Int} {refs : List Reference} {f g : Reference}

namespace Nearest

theorem mem (h : Nearest r movable sensitivity refs (some f)) : f ∈ refs := by
  cases h with
  | first hrefs _ _ _ => exact hrefs ▸ List.mem_append_right _ List.mem_cons_self

theorem reaches (h : Nearest r movable sensitivity refs (some f)) : f.Reaches r movable sensitivity := by
  cases h with
  | first _ hf _ _ => exact hf

theorem le (h : Nearest r movable sensitivity refs (some f)) (hg : g ∈ refs) (hr : g.Reaches r movable sensitivity) :
    f.distance r ≤ g.distance r := by
  cases h with
  | first hrefs _ hbefore hafter =>
    rw [hrefs, List.mem_append, List.mem_cons] at hg
    rcases hg with hg | rfl | hg
    · exact Nat.le_of_lt (hbefore g hg hr)
    · exact Nat.le_refl _
    · exact hafter g hg hr

/-! One more reference, at the end. -/

theorem append_out (h : Nearest r movable sensitivity refs none) (hg : ¬ g.Reaches r movable sensitivity) :
    Nearest r movable sensitivity (refs ++ [g]) none := by
  cases h with
  | out hout =>
    refine .out fun f hf => ?_
    rcases List.mem_append.1 hf with hf | hf
    · exact hout f hf
    · rwa [List.mem_singleton.1 hf]

/-- It does not replace one that is as near. -/
theorem append_keep (h : Nearest r movable sensitivity refs (some f))
    (hg : g.Reaches r movable sensitivity → f.distance r ≤ g.distance r) :
    Nearest r movable sensitivity (refs ++ [g]) (some f) := by
  cases h with
  | @first before after _ hrefs hf hbefore hafter =>
    refine @first _ _ _ _ before (after ++ [g]) _ ?_ hf hbefore fun k hk hr => ?_
    · rw [hrefs, List.append_assoc, List.cons_append]
    · rcases List.mem_append.1 hk with hk | hk
      · exact hafter k hk hr
      · rw [List.mem_singleton.1 hk] at hr ⊢
        exact hg hr

theorem append_first (hg : g.Reaches r movable sensitivity)
    (hless : ∀ f ∈ refs, f.Reaches r movable sensitivity → g.distance r < f.distance r) :
    Nearest r movable sensitivity (refs ++ [g]) (some g) :=
  .first rfl hg hless fun _ hk => absurd hk List.not_mem_nil

end Nearest

/-! ## The comparisons as a list -/

def pull (r : Rect) (f : Reference) : Pull := ⟨f.side, f.way r⟩

/-- The pulls of the references whose side may move. -/
def pulls (r : Rect) (movable : Sides) (refs : List Reference) : List Pull :=
  (refs.filter fun f => movable.has f.side).map (pull r)

theorem pulls_append (l l' : List Reference) : pulls r movable (l ++ l') = pulls r movable l ++ pulls r movable l' := by
  simp only [pulls, List.filter_append, List.map_append]

theorem pulls_flatMap {α : Type} (l : List α) (g : α → List Reference) :
    pulls r movable (l.flatMap g) = l.flatMap fun a => pulls r movable (g a) := by
  simp only [pulls, List.filter_flatMap, List.map_flatMap]

theorem pulls_lines (side : Side) (lines : List Int) :
    pulls r movable (lines.map fun line => ⟨side, line⟩) = Pull.toLines r movable side lines := by
  unfold pulls Pull.toLines
  split
  · rename_i hm
    rw [List.filter_eq_self.2, List.map_map]
    · rfl
    · simp [hm]
  · rename_i hm
    rw [List.filter_eq_nil_iff.2]
    · rfl
    · simp [hm]

theorem pulls_x (others : List Rect) (viewport : Int) :
    pulls r movable (along others viewport .x) = Pull.horizontal r movable others viewport := by
  have hends : pulls r movable [⟨.left, 0⟩, ⟨.right, viewport⟩] =
      Pull.toLines r movable .left [0] ++ Pull.toLines r movable .right [viewport] := by
    rw [← pulls_lines, ← pulls_lines, ← pulls_append]
    rfl
  have hother : ∀ o : Rect, pulls r movable [⟨.left, o.left⟩, ⟨.left, o.right⟩, ⟨.right, o.left⟩, ⟨.right, o.right⟩] =
      Pull.toLines r movable .left [o.left, o.right] ++ Pull.toLines r movable .right [o.left, o.right] := by
    intro o
    rw [← pulls_lines, ← pulls_lines, ← pulls_append]
    rfl
  simp only [along, pulls_append, pulls_flatMap, hends, hother, Pull.horizontal]

theorem pulls_y (others : List Rect) (viewport : Int) :
    pulls r movable (along others viewport .y) = Pull.vertical r movable others := by
  have hend : pulls r movable [⟨.top, 0⟩] = Pull.toLines r movable .top [0] := pulls_lines .top [0]
  have hother : ∀ o : Rect, pulls r movable [⟨.top, o.top⟩, ⟨.top, o.bottom⟩, ⟨.bottom, o.top⟩, ⟨.bottom, o.bottom⟩] =
      Pull.toLines r movable .top [o.top, o.bottom] ++ Pull.toLines r movable .bottom [o.top, o.bottom] := by
    intro o
    rw [← pulls_lines, ← pulls_lines, ← pulls_append]
    rfl
  simp only [along, pulls_append, pulls_flatMap, hend, hother, Pull.vertical]

/-! ## The running best -/

theorem reaches_iff : f.Reaches r movable sensitivity ↔ movable.has f.side ∧ (f.pull r).active sensitivity := by
  simp only [Reaches, Pull.active, Bool.and_eq_true, bne_iff_ne, decide_eq_true_eq]
  rfl

theorem nearest_concat (l : List Pull) (p : Pull) :
    Pull.nearest sensitivity (l ++ [p]) =
      if p.active sensitivity then Pull.nearer (Pull.nearest sensitivity l) p else Pull.nearest sensitivity l := by
  simp only [Pull.nearest, List.filter_append, List.filter_cons, List.filter_nil]
  split
  · rw [List.foldl_append]
    rfl
  · rw [List.append_nil]

/-- One more comparison. -/
theorem nearest_pulls_concat (refs : List Reference) (f : Reference) :
    Pull.nearest sensitivity (pulls r movable (refs ++ [f])) =
      if f.Reaches r movable sensitivity then Pull.nearer (Pull.nearest sensitivity (pulls r movable refs)) (f.pull r)
      else Pull.nearest sensitivity (pulls r movable refs) := by
  rw [pulls_append]
  by_cases hm : movable.has f.side
  · have hone : pulls r movable [f] = [f.pull r] := by simp [pulls, hm]
    simp only [hone, nearest_concat, reaches_iff, hm, true_and]
  · have hone : pulls r movable [f] = [] := by simp [pulls, hm]
    rw [hone, List.append_nil, if_neg fun hf => hm hf.1]

/-- The best pull of the comparisons so far is that of the first of the nearest references in
reach, after each of them. -/
theorem nearest_pulls (refs : List Reference) :
    ∃ best, Nearest r movable sensitivity refs best ∧
      Pull.nearest sensitivity (pulls r movable refs) = best.map (pull r) := by
  induction refs using List.reverseRecOn with
  | nil => exact ⟨none, .out fun f hf => absurd hf List.not_mem_nil, rfl⟩
  | append_singleton refs g ih =>
    obtain ⟨best, hn, hbest⟩ := ih
    rw [nearest_pulls_concat, hbest]
    split
    · rename_i hg
      cases best with
      | none =>
        cases hn with
        | out hout => exact ⟨some g, .append_first hg fun f hf hr => absurd hr (hout f hf), rfl⟩
      | some f =>
        by_cases hd : g.distance r < f.distance r
        · exact ⟨some g, .append_first hg fun k hk hr => Nat.lt_of_lt_of_le hd (hn.le hk hr), if_pos hd⟩
        · exact ⟨some f, hn.append_keep fun _ => Nat.le_of_not_lt hd, if_neg hd⟩
    · rename_i hg
      cases best with
      | none => exact ⟨none, hn.append_out hg, rfl⟩
      | some f => exact ⟨some f, hn.append_keep fun hr => absurd hr hg, rfl⟩

/-! In coordinates, comparison by comparison. -/

theorem compare?_eq_some_iff {best best' : Option Pull} :
    compare? r movable sensitivity best f = some best' ↔
      (movable.has f.side → f.InRange r) ∧
        (if f.Reaches r movable sensitivity then Pull.nearer best (f.pull r) else best) = best' := by
  by_cases hm : movable.has f.side
  · have hreach : f.Reaches r movable sensitivity ↔ ¬ ((f.distance r : Int) = 0 ∨ sensitivity < f.distance r) := by
      simp only [Reaches, hm, true_and]
      omega
    have hbest : (if (f.distance r : Int) = 0 ∨ sensitivity < f.distance r then some best
        else some (Pull.nearer best (f.pull r))) =
        some (if f.Reaches r movable sensitivity then Pull.nearer best (f.pull r) else best) := by
      simp only [hreach, ite_not, apply_ite some]
    simp only [compare?, if_pos hm, Option.bind_eq_bind, Option.bind_eq_some_iff, Coordinate.of?_eq_some_iff]
    constructor
    · rintro ⟨_, ⟨hline, rfl⟩, _, ⟨hway, rfl⟩, _, ⟨hdistance, rfl⟩, h⟩
      exact ⟨fun _ => ⟨hline, hway, hdistance⟩, Option.some.inj (hbest.symm.trans h)⟩
    · rintro ⟨hrange, rfl⟩
      obtain ⟨hline, hway, hdistance⟩ := hrange hm
      exact ⟨_, ⟨hline, rfl⟩, _, ⟨hway, rfl⟩, _, ⟨hdistance, rfl⟩, hbest⟩
  · have hout : ¬ f.Reaches r movable sensitivity := fun hf => hm hf.1
    simp only [compare?, if_neg hm, if_neg hout, Option.some.injEq]
    exact (and_iff_right fun h => absurd h hm).symm

/-- The comparisons have a result just if none of them overflows, and then the best pull. -/
theorem foldlM_compare? (refs : List Reference) (best : Option Pull) :
    refs.foldlM (compare? r movable sensitivity) none = some best ↔
      (∀ f ∈ refs, movable.has f.side → f.InRange r) ∧ Pull.nearest sensitivity (pulls r movable refs) = best := by
  induction refs using List.reverseRecOn generalizing best with
  | nil => simp [pulls, Pull.nearest]
  | append_singleton refs g ih =>
    simp only [List.foldlM_append, List.foldlM_cons, List.foldlM_nil, bind_pure, Option.bind_eq_bind,
      Option.bind_eq_some_iff, ih, compare?_eq_some_iff, nearest_pulls_concat, List.forall_mem_append,
      List.forall_mem_singleton]
    constructor
    · rintro ⟨b, ⟨hrefs, rfl⟩, hg, hbest⟩
      exact ⟨⟨hrefs, hg⟩, hbest⟩
    · rintro ⟨⟨hrefs, hg⟩, hbest⟩
      exact ⟨_, ⟨hrefs, rfl⟩, hg, hbest⟩

theorem nearest_pulls_eq_none :
    Pull.nearest sensitivity (pulls r movable refs) = none ↔ ∀ f ∈ refs, ¬ f.Reaches r movable sensitivity := by
  obtain ⟨best, hn, hbest⟩ := nearest_pulls (r := r) refs
  rw [hbest, Option.map_eq_none_iff]
  cases best with
  | none =>
    cases hn with
    | out hout => exact ⟨fun _ => hout, fun _ => rfl⟩
  | some f =>
    constructor
    · intro h
      cases h
    · exact fun h => absurd hn.reaches (h f hn.mem)

end Reference

/-! ## Snaps -/

namespace Snap

def delta (s : Snap) : Axis → Int
  | .x => s.dx
  | .y => s.dy

def side? (s : Snap) : Axis → Option Side
  | .x => s.xSide
  | .y => s.ySide

theorem ofPulls_eq {x y : Option Pull} {s : Snap} (h : ofPulls x y = some s) :
    s.xSide = x.map Pull.side ∧ s.dx = (x.map Pull.delta).getD 0 ∧
      s.ySide = y.map Pull.side ∧ s.dy = (y.map Pull.delta).getD 0 := by
  cases x <;> cases y <;> cases h <;> exact ⟨rfl, rfl, rfl, rfl⟩

theorem ofPulls_eq_none {x y : Option Pull} : ofPulls x y = none ↔ x = none ∧ y = none := by
  cases x <;> cases y <;> simp [ofPulls]

end Snap

namespace Rect

open Reference

variable {r : Rect} {movable : Sides} {others : List Rect} {viewport sensitivity : Int} {s : Snap}

theorem snap_eq : r.snap movable others viewport sensitivity =
    Snap.ofPulls (Pull.nearest sensitivity (pulls r movable (along others viewport .x)))
      (Pull.nearest sensitivity (pulls r movable (along others viewport .y))) := by
  rw [pulls_x, pulls_y]
  rfl

theorem snap_pulls (h : r.snap movable others viewport sensitivity = some s) (a : Axis) :
    s.side? a = (Pull.nearest sensitivity (pulls r movable (along others viewport a))).map Pull.side ∧
      s.delta a = ((Pull.nearest sensitivity (pulls r movable (along others viewport a))).map Pull.delta).getD 0 := by
  rw [snap_eq] at h
  obtain ⟨hxs, hxd, hys, hyd⟩ := Snap.ofPulls_eq h
  cases a with
  | x => exact ⟨hxs, hxd⟩
  | y => exact ⟨hys, hyd⟩

/-- The reference that pulls a rectangle along an axis. -/
theorem snap_axis (h : r.snap movable others viewport sensitivity = some s) (a : Axis) :
    ∃ best, Nearest r movable sensitivity (along others viewport a) best ∧
      s.side? a = best.map Reference.side ∧ s.delta a = (best.map (way r)).getD 0 := by
  obtain ⟨hside, hdelta⟩ := snap_pulls h a
  obtain ⟨best, hn, hbest⟩ := nearest_pulls (along others viewport a)
  rw [hbest, Option.map_map] at hside hdelta
  exact ⟨best, hn, hside, hdelta⟩

/-- A side that pulls may move, and is moved onto one of its lines. -/
theorem snap_line (h : r.snap movable others viewport sensitivity = some s) {a : Axis} {side : Side}
    (hs : s.side? a = some side) :
    movable.has side ∧ ⟨side, r.side side + s.delta a⟩ ∈ along others viewport a := by
  obtain ⟨best, hn, hside, hdelta⟩ := snap_axis h a
  obtain ⟨f, rfl, rfl⟩ := Option.map_eq_some_iff.1 (hside.symm.trans hs)
  have hline : r.side f.side + s.delta a = f.line := by
    simp only [hdelta, Option.map_some, Option.getD_some, way]
    omega
  exact ⟨hn.reaches.1, hline ▸ hn.mem⟩

theorem natAbs_delta_le (h : r.snap movable others viewport sensitivity = some s) (a : Axis) :
    ((s.delta a).natAbs : Int) ≤ max sensitivity 0 := by
  obtain ⟨best, hn, -, hdelta⟩ := snap_axis h a
  rw [hdelta]
  cases best with
  | none => exact Int.le_max_right _ _
  | some f => exact Int.le_trans hn.reaches.2.2 (Int.le_max_left _ _)

theorem snap_eq_none_iff : r.snap movable others viewport sensitivity = none ↔
    ∀ a, ∀ f ∈ along others viewport a, ¬ f.Reaches r movable sensitivity := by
  rw [snap_eq, Snap.ofPulls_eq_none, nearest_pulls_eq_none, nearest_pulls_eq_none]
  constructor
  · rintro ⟨hx, hy⟩ a
    cases a with
    | x => exact hx
    | y => exact hy
  · exact fun h => ⟨h .x, h .y⟩

/-! ### Overflows -/

/-- What a snap computes are coordinates. -/
structure SnapsInRange (r : Rect) (movable : Sides) (others : List Rect) (viewport : Int) : Prop where
  ends : r.EndsInRange
  along : ∀ a, ∀ f ∈ along others viewport a, movable.has f.side → f.InRange r

theorem snap?_eq_some_iff {result : Option Snap} : r.snap? movable others viewport sensitivity = some result ↔
    r.SnapsInRange movable others viewport ∧ r.snap movable others viewport sensitivity = result := by
  simp only [snap?, Option.bind_eq_bind, Option.bind_eq_some_iff, right?_eq_some_iff, bottom?_eq_some_iff,
    foldlM_compare?, Option.some.injEq]
  rw [snap_eq]
  constructor
  · rintro ⟨_, ⟨hright, rfl⟩, _, ⟨hbottom, rfl⟩, _, ⟨hx, rfl⟩, _, ⟨hy, rfl⟩, hresult⟩
    refine ⟨⟨⟨hright, hbottom⟩, fun a => ?_⟩, hresult⟩
    cases a with
    | x => exact hx
    | y => exact hy
  · rintro ⟨⟨⟨hright, hbottom⟩, halong⟩, hresult⟩
    exact ⟨_, ⟨hright, rfl⟩, _, ⟨hbottom, rfl⟩, _, ⟨halong .x, rfl⟩, _, ⟨halong .y, rfl⟩, hresult⟩

theorem side_bounds (hr : r.Moderate) (side : Side) : -0x8000000 ≤ r.side side ∧ r.side side ≤ 0x8000000 := by
  simp only [Rect.Moderate, Coordinate.Moderate] at hr
  cases side <;> simp only [Rect.side, right, bottom] <;> omega

theorem line_bounds (hviewport : Coordinate.Moderate viewport) (hothers : ∀ o ∈ others, o.Moderate) {a : Axis}
    {f : Reference} (hf : f ∈ along others viewport a) : -0x8000000 ≤ f.line ∧ f.line ≤ 0x8000000 := by
  simp only [Coordinate.Moderate] at hviewport
  rcases line_of_mem_along hf with hl | hl | ⟨o, ho, side, hl⟩
  · omega
  · omega
  · rw [hl]
    exact side_bounds (hothers o ho) side

/-- Among moderate rectangles in a moderate viewport no snap overflows. -/
theorem snap?_of_moderate (hr : r.Moderate) (hviewport : Coordinate.Moderate viewport)
    (hothers : ∀ o ∈ others, o.Moderate) :
    r.snap? movable others viewport sensitivity = some (r.snap movable others viewport sensitivity) := by
  refine snap?_eq_some_iff.2 ⟨⟨endsInRange_of_moderate hr, fun a f hf _ => ?_⟩, rfl⟩
  have hside := side_bounds hr f.side
  have hline := line_bounds hviewport hothers hf
  constructor <;> simp only [Reference.distance, way, Coordinate.inRange_iff] <;> omega

/-! ### The lines of a side -/

theorem snap_left (h : r.snap movable others viewport sensitivity = some s) (hx : s.xSide = some .left) :
    movable.left ∧ (r.left + s.dx = 0 ∨ ∃ o ∈ others, r.left + s.dx ∈ [o.left, o.right]) := by
  obtain ⟨hm, hl⟩ := snap_line (a := .x) h hx
  exact ⟨hm, by simpa [along, Rect.side, Snap.delta] using hl⟩

theorem snap_right (h : r.snap movable others viewport sensitivity = some s) (hx : s.xSide = some .right) :
    movable.right ∧ (r.right + s.dx = viewport ∨ ∃ o ∈ others, r.right + s.dx ∈ [o.left, o.right]) := by
  obtain ⟨hm, hl⟩ := snap_line (a := .x) h hx
  exact ⟨hm, by simpa [along, Rect.side, Snap.delta] using hl⟩

theorem snap_top (h : r.snap movable others viewport sensitivity = some s) (hy : s.ySide = some .top) :
    movable.top ∧ (r.top + s.dy = 0 ∨ ∃ o ∈ others, r.top + s.dy ∈ [o.top, o.bottom]) := by
  obtain ⟨hm, hl⟩ := snap_line (a := .y) h hy
  exact ⟨hm, by simpa [along, Rect.side, Snap.delta] using hl⟩

/-- A snap has a result just if no number overflows. A rectangle is then not snapped exactly
if no reference is in reach, and a snap is on each axis that of the first of the nearest
references, if any is in reach there. -/
theorem snap_nearest (r : Rect) (movable : Sides) (others : List Rect) (viewport sensitivity : Int) :
    ((r.snap? movable others viewport sensitivity).isSome ↔ r.SnapsInRange movable others viewport) ∧
    ∀ result, r.snap? movable others viewport sensitivity = some result →
      r.snap movable others viewport sensitivity = result ∧
      (result = none ↔ ∀ a, ∀ f ∈ along others viewport a, ¬ f.Reaches r movable sensitivity) ∧
      ∀ s, result = some s → ∀ a, ∃ best, Nearest r movable sensitivity (along others viewport a) best ∧
        s.side? a = best.map Reference.side ∧ s.delta a = (best.map (way r)).getD 0 := by
  refine ⟨Coordinate.isSome_iff fun _ => snap?_eq_some_iff, fun result h => ?_⟩
  obtain ⟨-, rfl⟩ := snap?_eq_some_iff.1 h
  exact ⟨rfl, snap_eq_none_iff, fun s hs a => snap_axis hs a⟩

/-- The way of the right side to the left side of another rectangle may be the least
coordinate, and then its distance is none. -/
example : Rect.snap? ⟨0x7FFFFFF0, 0, 0xF, 1⟩ { right := true } [⟨-1, 0, 1, 1⟩] 1000 40 = none := by decide

/-- The left side is as far from the end of the viewport as from the side of another
rectangle, and goes to the end of the viewport, which is compared first. -/
theorem snap_nearest_tie :
    let r : Rect := ⟨10, 200, 100, 100⟩
    let others : List Rect := [⟨-200, 500, 220, 50⟩]
    r.snap? .all others 1000 40 = some (some ⟨-10, 0, some .left, none⟩) ∧
      r.snap .all others 1000 40 = some ⟨-10, 0, some .left, none⟩ ∧
      (Reference.mk .left 20 ∈ along others 1000 .x ∧ (Reference.mk .left 20).distance r = 10) ∧
      Nearest r .all 40 (along others 1000 .x) (some ⟨.left, 0⟩) ∧ Nearest r .all 40 (along others 1000 .y) none := by
  intro r others
  have hsnap : r.snap? .all others 1000 40 = some (some ⟨-10, 0, some .left, none⟩) := by decide
  obtain ⟨hresult, -, hbest⟩ := (snap_nearest r .all others 1000 40).2 _ hsnap
  refine ⟨hsnap, hresult, by decide, ?_, ?_⟩
  · obtain ⟨best, hn, hside, hway⟩ := hbest _ rfl .x
    cases best with
    | none => cases hside
    | some f =>
      obtain ⟨side, line⟩ := f
      obtain rfl : Side.left = side := Option.some.inj hside
      have hline : line = 0 := by
        simp only [Snap.delta, Option.map_some, Option.getD_some, way, Rect.side, r] at hway
        omega
      exact hline ▸ hn
  · obtain ⟨best, hn, hside, -⟩ := hbest _ rfl .y
    cases best with
    | none => exact hn
    | some f => cases hside

end Rect

end FloatingPanels

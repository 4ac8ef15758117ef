import FloatingPanels.Gesture
import FloatingPanels.Proofs.Snap.Nearest
/-!
# Resizes and the viewport

`Rect.Within` is what moving and resizing keep of a rectangle: it starts on the page,
and ends in the viewport unless it is wider than that. A clamp establishes it. A resize
keeps it from a start rectangle that leaves room for the least size, and so does its
snap, as long as the lines that it snaps to are in the viewport.
-/

namespace FloatingPanels

namespace Rect

/-- On the page, and in a viewport of this width unless it is wider. -/
def Within (viewport : Int) (r : Rect) : Prop := 0 ≤ r.left ∧ 0 ≤ r.top ∧ (r.width ≤ viewport → r.right ≤ viewport)

instance (viewport : Int) (r : Rect) : Decidable (r.Within viewport) :=
  inferInstanceAs (Decidable (0 ≤ r.left ∧ 0 ≤ r.top ∧ (r.width ≤ viewport → r.right ≤ viewport)))

theorem within_clamp (r : Rect) (viewport : Int) : (r.clamp viewport).Within viewport := by
  simp only [Within, clamp, right]
  omega

/-- No wider than a viewport, and of a size that is not negative. -/
def Narrow (viewport : Int) (r : Rect) : Prop := 0 ≤ r.width ∧ r.width ≤ viewport ∧ 0 ≤ r.height

instance (viewport : Int) (r : Rect) : Decidable (r.Narrow viewport) :=
  inferInstanceAs (Decidable (0 ≤ r.width ∧ r.width ≤ viewport ∧ 0 ≤ r.height))

end Rect

namespace Resize

/-! ## Before a snap -/

theorem pullLower_upper (lo len d least : Int) :
    (pullLower lo len d least).1 + (pullLower lo len d least).2 = lo + len := by
  unfold pullLower
  dsimp only
  split <;> dsimp only <;> omega

theorem pullLower_nonneg {lo len least : Int} (d : Int) (h : least ≤ lo + len) :
    0 ≤ (pullLower lo len d least).1 := by
  unfold pullLower
  dsimp only
  split <;> dsimp only <;> omega

theorem pullUpper_le (len d : Int) {least room : Int} (h : least ≤ room) :
    pullUpper len d least (some room) ≤ room := by
  simp only [pullUpper]
  omega

theorem le_pullUpper (len d least : Int) (room : Option Int) : least ≤ pullUpper len d least room :=
  Int.le_max_left _ _

theorem le_pullLower (lo len d least : Int) : least ≤ (pullLower lo len d least).2 := by
  unfold pullLower
  dsimp only
  split <;> dsimp only <;> omega

/-- The start rectangle leaves room for the least size on the sides that the handle
pulls: a right side that is pulled can stay in the viewport, one that is not is there,
and a left or an upper side that is pulled back stays on the page. -/
def Fits (g : Resize) (viewport : Int) (least : Size) : Prop :=
  (g.handle.sides.right → least.width ≤ viewport → g.rect.left + least.width ≤ viewport) ∧
    (g.handle.sides.left → least.width ≤ g.rect.right ∧ g.rect.right ≤ viewport) ∧
    (g.handle.sides.top → least.height ≤ g.rect.bottom)

instance (g : Resize) (viewport : Int) (least : Size) : Decidable (g.Fits viewport least) :=
  inferInstanceAs (Decidable (_ ∧ _ ∧ _))

variable {g : Resize} {viewport : Int} {least : Size}

/-- A handle pulls at most one side along each axis. -/
theorem not_right_of_left {h : Handle} (hl : h.sides.left) : h.sides.right = false := by
  cases h <;> first | rfl | cases hl

theorem not_bottom_of_top {h : Handle} (ht : h.sides.top) : h.sides.bottom = false := by
  cases h <;> first | rfl | cases ht

/-- The side opposite to a left side that is pulled stays. -/
theorem candidate_right (p : Point) (hl : g.handle.sides.left) :
    (g.candidate p viewport least).right = g.rect.right := by
  have h := pullLower_upper g.rect.left g.rect.width (p.x - g.start.x) least.width
  simp only [candidate, not_right_of_left hl, hl, if_true, Bool.false_eq_true, if_false]
  exact h

theorem candidate_left (p : Point) (hl : g.handle.sides.left = false) :
    (g.candidate p viewport least).left = g.rect.left := by
  simp only [candidate, hl, Bool.false_eq_true, if_false]
  split <;> rfl

theorem candidate_within (p : Point) (hr : g.rect.Within viewport) (hf : g.Fits viewport least) :
    (g.candidate p viewport least).Within viewport := by
  obtain ⟨hleft, htop, hright⟩ := hr
  obtain ⟨hfr, hfl, hft⟩ := hf
  refine ⟨?_, ?_, ?_⟩
  · cases hl : g.handle.sides.left with
    | false => exact (candidate_left p hl) ▸ hleft
    | true =>
      have h := pullLower_nonneg (p.x - g.start.x) (hfl hl).1
      simp only [candidate, not_right_of_left hl, hl, if_true, Bool.false_eq_true, if_false]
      exact h
  · cases ht : g.handle.sides.top with
    | false =>
      simp only [candidate, ht, Bool.false_eq_true, if_false]
      split <;> exact htop
    | true =>
      have h := pullLower_nonneg (p.y - g.start.y) (hft ht)
      simp only [candidate, not_bottom_of_top ht, ht, if_true, Bool.false_eq_true, if_false]
      exact h
  · intro hw
    cases hl : g.handle.sides.left with
    | true => exact (candidate_right p hl) ▸ (hfl hl).2
    | false =>
      simp only [candidate, hl, Bool.false_eq_true, if_false, Rect.right] at hw ⊢
      cases hp : g.handle.sides.right with
      | false =>
        simp only [hp, Bool.false_eq_true, if_false] at hw ⊢
        exact hright hw
      | true =>
        simp only [hp, if_true] at hw ⊢
        -- There is room for the least size, or not even the viewport has it.
        have hle := le_pullUpper g.rect.width (p.x - g.start.x) least.width (some (viewport - g.rect.left))
        have hroom := hfr hp (Int.le_trans hle hw)
        have := pullUpper_le g.rect.width (p.x - g.start.x) (show least.width ≤ viewport - g.rect.left by omega)
        omega

/-! ## After it -/

theorem snapped_within {r : Rect} {s : Snap} (hr : r.Within viewport)
    (hl : s.xSide = some .left → 0 ≤ r.left + s.dx ∧ r.right ≤ viewport)
    (hx : s.xSide = some .right → r.right + s.dx ≤ viewport) (ht : s.ySide = some .top → 0 ≤ r.top + s.dy) :
    (snapped r s least).Within viewport := by
  obtain ⟨hleft, htop, hright⟩ := hr
  have x : 0 ≤ (snapped r s least).left ∧
      ((snapped r s least).width ≤ viewport → (snapped r s least).right ≤ viewport) := by
    simp only [snapped, Rect.right] at hl hx hright ⊢
    split
    · rename_i hs
      have := hl hs
      split <;> dsimp only <;> omega
    · rename_i hs
      have := hx hs
      split <;> dsimp only <;> omega
    · exact ⟨hleft, hright⟩
  have y : 0 ≤ (snapped r s least).top := by
    simp only [snapped]
    split
    · rename_i hs
      split
      · exact ht hs
      · exact htop
    · split <;> exact htop
    · exact htop
  exact ⟨x.1, y, x.2⟩

/-- A resize among rectangles in the viewport stays in it. -/
theorem snap_within (p : Point) {others : List Rect} {sensitivity : Int} {s : Snap} (hr : g.rect.Within viewport)
    (hf : g.Fits viewport least) (ho : ∀ o ∈ others, o.Within viewport ∧ o.Narrow viewport)
    (hs : (g.candidate p viewport least).snap g.handle.sides others viewport sensitivity = some s) :
    (snapped (g.candidate p viewport least) s least).Within viewport := by
  have hc := candidate_within p hr hf
  -- The lines of the others are in the viewport.
  have hlines : ∀ o ∈ others, 0 ≤ o.left ∧ 0 ≤ o.right ∧ o.left ≤ viewport ∧ o.right ≤ viewport ∧
      0 ≤ o.top ∧ 0 ≤ o.bottom := by
    intro o hm
    obtain ⟨⟨hleft, htop, hright⟩, hw, hv, hh⟩ := ho o hm
    have := hright hv
    simp only [Rect.right, Rect.bottom] at this ⊢
    omega
  refine snapped_within hc (fun hx => ?_) (fun hx => ?_) fun hy => ?_
  · obtain ⟨hm, hline⟩ := Rect.snap_left hs hx
    refine ⟨?_, (candidate_right p hm) ▸ (hf.2.1 hm).2⟩
    rcases hline with hline | ⟨o, hm, hline⟩
    · exact Int.le_of_eq hline.symm
    · have := hlines o hm
      simp only [List.mem_cons, List.not_mem_nil, or_false] at hline
      omega
  · rcases (Rect.snap_right hs hx).2 with hline | ⟨o, hm, hline⟩
    · exact Int.le_of_eq hline
    · have := hlines o hm
      simp only [List.mem_cons, List.not_mem_nil, or_false] at hline
      omega
  · rcases (Rect.snap_top hs hy).2 with hline | ⟨o, hm, hline⟩
    · exact Int.le_of_eq hline.symm
    · have := hlines o hm
      simp only [List.mem_cons, List.not_mem_nil, or_false] at hline
      omega

end Resize

end FloatingPanels

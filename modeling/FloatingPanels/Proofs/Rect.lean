import FloatingPanels.Geometry
/-!
# Rectangles

A rectangle stands for the points that it contains. Some rectangles tile another one if
each of its points lies in exactly one of them and none of them has a further point. A
rectangle that is empty has no point at all, so it may stand anywhere in a tiling.

A clamp moves a rectangle to where it has to be; it never moves it twice, and where there
is room it does not move it away from a point of the viewport.

What is computed in coordinates has a result just if each number on the way is in range,
and then the same one as without a range.
-/

namespace FloatingPanels

/-! ## Coordinates -/

namespace Coordinate

variable {n m : Int}

theorem inRange_iff : InRange n ↔ -0x80000000 ≤ n ∧ n ≤ 0x7FFFFFFF := Iff.rfl

theorem of?_eq (h : InRange n) : of? n = some n := if_pos h

@[simp] theorem of?_eq_some_iff : of? n = some m ↔ InRange n ∧ n = m := by
  unfold of?
  split <;> simp_all

theorem isSome_iff {α : Type} {result : Option α} {p : Prop} {a : α} (h : ∀ b, result = some b ↔ p ∧ a = b) :
    result.isSome ↔ p := by
  simp only [Option.isSome_iff_exists, h, exists_and_left, exists_eq', and_true]

end Coordinate

namespace Rect

/-! ## Points -/

variable {r : Rect} {p : Point}

theorem contains_iff :
    r.contains p ↔ r.left ≤ p.x ∧ p.x < r.right ∧ r.top ≤ p.y ∧ p.y < r.bottom := by
  simp only [contains, Bool.and_eq_true, decide_eq_true_eq, and_assoc]

theorem isEmpty_eq_false : r.isEmpty = false ↔ 0 < r.width ∧ 0 < r.height := by
  simp only [isEmpty, Bool.or_eq_false_iff, decide_eq_false_iff_not, Int.not_le]

@[simp] theorem right?_eq_some_iff {n : Int} : r.right? = some n ↔ Coordinate.InRange r.right ∧ r.right = n :=
  Coordinate.of?_eq_some_iff

@[simp] theorem bottom?_eq_some_iff {n : Int} : r.bottom? = some n ↔ Coordinate.InRange r.bottom ∧ r.bottom = n :=
  Coordinate.of?_eq_some_iff

/-- The right and the lower end are coordinates. -/
def EndsInRange (r : Rect) : Prop := Coordinate.InRange r.right ∧ Coordinate.InRange r.bottom

theorem endsInRange_of_moderate (h : r.Moderate) : r.EndsInRange := by
  simp only [Moderate, Coordinate.Moderate] at h
  simp only [EndsInRange, Coordinate.inRange_iff, right, bottom]
  omega

theorem isEmpty_of_contains (hp : r.contains p) : r.isEmpty = false := by
  rw [contains_iff, right, bottom] at hp
  rw [isEmpty_eq_false]
  omega

/-- A rectangle that is not empty has at least its origin. -/
theorem exists_contains_iff : (∃ p, r.contains p) ↔ r.isEmpty = false := by
  constructor
  · rintro ⟨p, hp⟩
    exact isEmpty_of_contains hp
  · intro h
    rw [isEmpty_eq_false] at h
    refine ⟨r.origin, ?_⟩
    simp only [contains_iff, origin, right, bottom]
    omega

/-- The common part of two rectangles. Where they have no point in common, it is empty. -/
def meet (r s : Rect) : Rect where
  left := max r.left s.left
  top := max r.top s.top
  width := min r.right s.right - max r.left s.left
  height := min r.bottom s.bottom - max r.top s.top

theorem contains_meet {s : Rect} : (r.meet s).contains p ↔ r.contains p ∧ s.contains p := by
  simp only [contains_iff, meet, right, bottom]
  omega

/-- Every point of the one rectangle lies in the other. -/
def Inside (r s : Rect) : Prop := ∀ p, r.contains p → s.contains p

/-- No point of the one rectangle lies in the other. -/
def Apart (r s : Rect) : Prop := ∀ p, r.contains p → ¬ s.contains p

/-- Of some rectangles, each point of another lies in exactly one. -/
structure TiledBy (r : Rect) (rs : List Rect) : Prop where
  apart : rs.Pairwise Apart
  cover : ∀ p, (∃ s ∈ rs, s.contains p) ↔ r.contains p

/-! ## Clamps -/

theorem clamp_bounds (r : Rect) (viewport : Int) :
    0 ≤ (r.clamp viewport).left ∧ (r.clamp viewport).left ≤ max 0 (viewport - r.width) ∧ 0 ≤ (r.clamp viewport).top := by
  simp only [clamp]
  omega

@[simp] theorem clamp?_eq_some_iff {viewport : Int} {s : Rect} :
    r.clamp? viewport = some s ↔ Coordinate.InRange (viewport - r.width) ∧ r.clamp viewport = s := by
  simp [clamp?, clamp, Option.bind_eq_some_iff, and_assoc]

theorem clamp_clamp (r : Rect) (viewport : Int) : (r.clamp viewport).clamp viewport = r.clamp viewport := by
  simp only [clamp, mk.injEq, and_true]
  omega

/-- A clamp may take back some of a shift, but it does not make more of it. -/
theorem natAbs_clamp_shift (r : Rect) (dx dy viewport : Int) :
    ((((r.clamp viewport).shift dx dy).clamp viewport).left - (r.clamp viewport).left).natAbs ≤ dx.natAbs ∧
      ((((r.clamp viewport).shift dx dy).clamp viewport).top - (r.clamp viewport).top).natAbs ≤ dy.natAbs := by
  simp only [clamp, shift]
  omega

theorem clamp_keeps {x viewport : Int} (hx : r.left ≤ x ∧ x < r.right) (hv : 0 ≤ x ∧ x < viewport)
    (hroom : r.width ≤ viewport) : (r.clamp viewport).left ≤ x ∧ x < (r.clamp viewport).right := by
  simp only [clamp, right] at hx ⊢
  omega

end Rect

end FloatingPanels

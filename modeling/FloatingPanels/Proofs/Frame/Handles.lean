import Mathlib.Data.List.Nodup
import FloatingPanels.Frame.Layout
import FloatingPanels.Proofs.Rect
/-!
# Handles and the sides that they pull

Along each axis a handle takes the first or the last few units of a rectangle, or what is
between, and `handles_eq` says that the handles are those of the eight areas so made that
are not empty. `handles_ring` draws from it what a user may rely on: the handles cover the
points near a side and no others, and a point is in the handle that pulls just the sides
which it is near. On a rectangle with a single row or column both sides are near at once,
so there handles lie over each other, and they still cover all of it.
-/

namespace FloatingPanels

/-- Of opposite sides, the left and the top one. -/
def Sides.unopposed (s : Sides) : Sides := { s with right := s.right && !s.left, bottom := s.bottom && !s.top }

namespace Handle

theorem sides_injective : Function.Injective sides := by
  intro h h' heq
  cases h <;> cases h' <;> first | rfl | cases heq

theorem exists_side (h : Handle) : ∃ side, h.sides.has side := by
  cases h with
  | left => exact ⟨.left, rfl⟩
  | right => exact ⟨.right, rfl⟩
  | top | topLeft | topRight => exact ⟨.top, rfl⟩
  | bottom | bottomLeft | bottomRight => exact ⟨.bottom, rfl⟩

/-- Whatever sides are given, some handle pulls them, opposite ones aside. -/
theorem exists_sides_eq {s : Sides} {side : Side} (hside : s.has side) : ∃ h : Handle, h.sides = s.unopposed := by
  have hall : ∀ left right top bottom : Bool, (left || right || top || bottom) = true →
      ∃ h ∈ all, h.sides = (Sides.mk left right top bottom).unopposed := by decide
  obtain ⟨h, -, hsides⟩ := hall s.left s.right s.top s.bottom <| by
    cases side <;> simp_all [Sides.has]
  exact ⟨h, hsides⟩

end Handle

namespace Rect

variable (r : Rect) (thickness t : Int) (h : Handle) (p : Point)

/-! ## The area of a handle -/

/-- The thickness that handles really have: less than asked for on a small rectangle. -/
def rim : Int := max 1 (min (min thickness (r.width / 2)) (r.height / 2))

/-- Where on a rectangle the handle is, if the rectangle is large enough to have it. -/
def handleArea : Rect where
  left := if h.sides.left then r.left else if h.sides.right then r.right - t else r.left + t
  top := if h.sides.top then r.top else if h.sides.bottom then r.bottom - t else r.top + t
  width := if h.sides.horizontal then t else r.width - 2 * t
  height := if h.sides.vertical then t else r.height - 2 * t

/-- The sides that are less than `t` units away from a point of the rectangle. -/
def sidesNear : Sides where
  left := p.x < r.left + t
  right := r.right - t ≤ p.x
  top := p.y < r.top + t
  bottom := r.bottom - t ≤ p.y

variable {r thickness t h p}

theorem rim_pos : 0 < r.rim thickness := by
  rw [rim]
  omega

theorem rim_le (thickness : Int) (hw : 0 < r.width) (hh : 0 < r.height) :
    r.rim thickness ≤ r.width ∧ r.rim thickness ≤ r.height := by
  rw [rim]
  omega

/-- In two rows and two columns there is room for the handles of opposite sides. -/
theorem two_mul_rim_le (thickness : Int) (hw : 2 ≤ r.width) (hh : 2 ≤ r.height) :
    2 * r.rim thickness ≤ r.width ∧ 2 * r.rim thickness ≤ r.height := by
  rw [rim]
  omega

/-- Along each axis a handle has the first `t` units of the rectangle, the last, or those
between. -/
theorem contains_handleArea :
    (r.handleArea t h).contains p ↔
      (if h.sides.left then r.left ≤ p.x ∧ p.x < r.left + t
        else if h.sides.right then r.right - t ≤ p.x ∧ p.x < r.right else r.left + t ≤ p.x ∧ p.x < r.right - t) ∧
      if h.sides.top then r.top ≤ p.y ∧ p.y < r.top + t
        else if h.sides.bottom then r.bottom - t ≤ p.y ∧ p.y < r.bottom else r.top + t ≤ p.y ∧ p.y < r.bottom - t := by
  rw [contains_iff]
  cases h <;> simp [handleArea, Handle.sides, Sides.horizontal, Sides.vertical, right, bottom] <;> omega

/-- The handles of a rectangle are the areas that are not empty, the corners first. -/
theorem handles_eq (hr : r.isEmpty = false) (ht : 0 < thickness) :
    r.handles thickness =
      (Handle.all.map fun h => (h, r.handleArea (r.rim thickness) h)).filter fun h => !h.2.isEmpty := by
  have hpos : ¬ r.rim thickness ≤ 0 := Int.not_le.2 rim_pos
  have hwidth : (r.width - 2 * r.rim thickness ≤ 0) ↔ ¬ 2 * r.rim thickness < r.width := by omega
  have hheight : (r.height - 2 * r.rim thickness ≤ 0) ↔ ¬ 2 * r.rim thickness < r.height := by omega
  rw [handles, hr, if_neg (by simpa using ht), ← rim]
  by_cases hw : 2 * r.rim thickness < r.width <;> by_cases hh : 2 * r.rim thickness < r.height <;>
    simp [Handle.all, Handle.sides, handleArea, Sides.horizontal, Sides.vertical, isEmpty, hpos, hwidth, hheight, hw, hh]

theorem mem_handles {area : Rect} (hr : r.isEmpty = false) (ht : 0 < thickness) :
    (h, area) ∈ r.handles thickness ↔ area = r.handleArea (r.rim thickness) h ∧ area.isEmpty = false := by
  have hall : h ∈ Handle.all := by cases h <;> decide
  rw [handles_eq hr ht, List.mem_filter, List.mem_map, Bool.not_eq_true']
  refine and_congr_left fun _ => ⟨?_, ?_⟩
  · rintro ⟨h', -, heq⟩
    cases heq
    rfl
  · rintro rfl
    exact ⟨h, hall, rfl⟩

theorem nodup_handles (hr : r.isEmpty = false) (ht : 0 < thickness) :
    (r.handles thickness).Pairwise fun x y => x.1 ≠ y.1 := by
  rw [handles_eq hr ht]
  refine List.Pairwise.filter _ (List.pairwise_map.2 ?_)
  exact (by decide : Handle.all.Nodup)

/-! ## Points and the sides that they are near -/

theorem has_sidesNear (side : Side) :
    (r.sidesNear t p).has side ↔
      (side = .left ∧ p.x < r.left + t) ∨ (side = .right ∧ r.right - t ≤ p.x) ∨
      (side = .top ∧ p.y < r.top + t) ∨ (side = .bottom ∧ r.bottom - t ≤ p.y) := by
  cases side <;> simp [sidesNear, Sides.has]

theorem sidesNear_of_contains (hp : (r.handleArea t h).contains p) {side : Side} (hside : h.sides.has side) :
    (r.sidesNear t p).has side := by
  rw [contains_handleArea] at hp
  rw [has_sidesNear]
  cases h <;> cases side <;> cases hside <;> simp [Handle.sides] at hp ⊢ <;> omega

/-- On a rectangle with room for two of them, a handle has the points that are near the
sides it pulls and near no others. -/
theorem contains_handleArea_iff (hw : 2 * t ≤ r.width) (hh : 2 * t ≤ r.height) (hp : r.contains p) :
    (r.handleArea t h).contains p ↔ h.sides = r.sidesNear t p := by
  rw [contains_iff] at hp
  rw [contains_handleArea]
  cases h <;> simp [Handle.sides, sidesNear] <;> simp only [right, bottom] at hp ⊢ <;> omega

/-- A point that is near some side lies in a handle. Where it is near opposite sides, the
handles of the left and of the top side have it. -/
theorem exists_contains_handleArea (hp : r.contains p) {side : Side} (hside : (r.sidesNear t p).has side) :
    ∃ h, (r.handleArea t h).contains p := by
  obtain ⟨h, hsides⟩ := Handle.exists_sides_eq hside
  refine ⟨h, ?_⟩
  rw [contains_iff] at hp
  simp only [contains_handleArea, hsides, Sides.unopposed, sidesNear, Bool.and_eq_true, Bool.not_eq_true',
    decide_eq_true_eq, decide_eq_false_iff_not]
  split_ifs <;> omega

theorem handleArea_inside (ht : 0 < t) (hw : t ≤ r.width) (hh : t ≤ r.height) : (r.handleArea t h).Inside r := by
  intro p hp
  rw [contains_handleArea] at hp
  rw [contains_iff]
  simp only [right, bottom] at hp ⊢
  split_ifs at hp <;> omega

/-! ## The ring -/

theorem inside_of_mem_handles (hr : r.isEmpty = false) (ht : 0 < thickness) {x : Handle × Rect}
    (hx : x ∈ r.handles thickness) : x.2.isEmpty = false ∧ x.2.Inside r := by
  obtain ⟨hwidth, hheight⟩ := isEmpty_eq_false.1 hr
  obtain ⟨hw, hh⟩ := rim_le thickness hwidth hheight
  obtain ⟨harea, hne⟩ := (mem_handles hr ht).1 hx
  rw [harea] at hne ⊢
  exact ⟨hne, handleArea_inside rim_pos hw hh⟩

theorem exists_mem_handles_iff (hr : r.isEmpty = false) (ht : 0 < thickness) (hp : r.contains p) :
    (∃ x ∈ r.handles thickness, x.2.contains p) ↔ ∃ side, (r.sidesNear (r.rim thickness) p).has side := by
  constructor
  · rintro ⟨x, hx, hxp⟩
    obtain ⟨harea, -⟩ := (mem_handles hr ht).1 hx
    obtain ⟨side, hside⟩ := x.1.exists_side
    rw [harea] at hxp
    exact ⟨side, sidesNear_of_contains hxp hside⟩
  · rintro ⟨side, hside⟩
    obtain ⟨h, hhp⟩ := exists_contains_handleArea hp hside
    exact ⟨(h, r.handleArea (r.rim thickness) h), (mem_handles hr ht).2 ⟨rfl, isEmpty_of_contains hhp⟩, hhp⟩

theorem sides_of_mem_handles (hr : r.isEmpty = false) (ht : 0 < thickness) (hw : 2 ≤ r.width) (hh : 2 ≤ r.height)
    {x : Handle × Rect} (hx : x ∈ r.handles thickness) (hp : x.2.contains p) :
    x.1.sides = r.sidesNear (r.rim thickness) p := by
  obtain ⟨htw, hth⟩ := two_mul_rim_le thickness hw hh
  have hin := (inside_of_mem_handles hr ht hx).2 p hp
  rw [((mem_handles hr ht).1 hx).1] at hp
  exact (contains_handleArea_iff htw hth hin).1 hp

/-- Handles that share a point pull the same sides, so they are the same handle. -/
theorem pairwise_apart_handles (hr : r.isEmpty = false) (ht : 0 < thickness) (hw : 2 ≤ r.width) (hh : 2 ≤ r.height) :
    ((r.handles thickness).map Prod.snd).Pairwise Apart := by
  rw [List.pairwise_map]
  refine (nodup_handles hr ht).imp_of_mem fun {x y} hx hy hne p hpx hpy => hne ?_
  have hsides := sides_of_mem_handles hr ht hw hh hx hpx
  exact Handle.sides_injective (hsides.trans (sides_of_mem_handles hr ht hw hh hy hpy).symm)

/-- The handles of a rectangle cover what is near its sides. If there are two rows and two
columns at least, no two handles share a point, and each pulls the sides that its points
are near. -/
structure Ring (r : Rect) (thickness : Int) : Prop where
  inside : ∀ x ∈ r.handles thickness, x.2.isEmpty = false ∧ x.2.Inside r
  cover : ∀ p, r.contains p →
    ((∃ x ∈ r.handles thickness, x.2.contains p) ↔ ∃ side, (r.sidesNear (r.rim thickness) p).has side)
  apart : 2 ≤ r.width → 2 ≤ r.height → ((r.handles thickness).map Prod.snd).Pairwise Apart
  pulls : 2 ≤ r.width → 2 ≤ r.height →
    ∀ x ∈ r.handles thickness, ∀ p, x.2.contains p → x.1.sides = r.sidesNear (r.rim thickness) p

end Rect

end FloatingPanels

import FloatingPanels.Proofs.Pointer.Dragging
/-!
# The pointer keeps its hold

A window that was maximized goes back to its saved size when it is dragged, and the
pointer stays at the same part of its title: the grabbed offset is scaled by the two
widths and rounded down. `demote_keepsGrab` says that the pointer is still over the window
after the clamp that follows, and that the drag begins anew from there, without a jump. All
this is if the product of the grabbed offset and the saved width is a coordinate. In a
viewport of up to 46341 units it is.
-/

namespace FloatingPanels

namespace Drag

/-- An offset inside a width, scaled to another width and rounded down, is inside that one. -/
theorem scaled_bounds {grab width width' : Int} (hgrab : 0 ≤ grab) (hlt : grab < width) (hwidth : 0 < width') :
    let offset := (grab * width').tdiv width
    (0 ≤ offset ∧ offset < width') ∧
      0 ≤ grab * width' - offset * width ∧ grab * width' - offset * width < width := by
  intro offset
  have hpos : 0 < width := by omega
  have hscaled : 0 ≤ grab * width' := Int.mul_nonneg hgrab hwidth.le
  have hoffset : offset = grab * width' / width := Int.tdiv_eq_ediv_of_nonneg hscaled
  have hrest : grab * width' - offset * width = grab * width' % width := by
    rw [hoffset, Int.emod_def, Int.mul_comm width]
  refine ⟨⟨?_, ?_⟩, ?_, ?_⟩
  · rw [hoffset]
    exact Int.ediv_nonneg hscaled hpos.le
  · rw [hoffset]
    refine Int.ediv_lt_of_lt_mul hpos ?_
    rw [Int.mul_comm width']
    exact Int.mul_lt_mul_of_pos_right hlt hwidth
  · rw [hrest]
    exact Int.emod_nonneg _ hpos.ne'
  · rw [hrest]
    exact Int.emod_lt_of_pos _ hpos

/-- What a demotion of the window `current` makes of a drag and of the window, with the
pointer at `p`. -/
structure KeepsGrab (p : Point) (current saved : Rect) (viewport : Int) (g : Drag) (r : Rect) : Prop where
  size : r.size = saved.size
  pointer : r.left ≤ p.x ∧ p.x < r.right
  /-- Before the clamp, the pointer is as far into the new width as it was into the old,
  up to the rounding. -/
  offset : ∃ offset : Int, r = (Rect.place ⟨p.x - offset, current.top⟩ saved.size).clamp viewport ∧
    0 ≤ (p.x - current.left) * saved.width - offset * current.width ∧
    (p.x - current.left) * saved.width - offset * current.width < current.width
  restore : g.restore = none
  /-- The new drag does not move the window until the pointer moves. -/
  again : g.candidate? p saved.size viewport = some r
  /-- Any drag that has the saved rectangle to restore takes the window there. -/
  first : ∀ g' : Drag, g'.restore = some saved → g'.followed p current viewport = r

variable {p : Point} {current saved : Rect} {viewport : Int}

/-- With the pointer over the window, the grabbed offset is inside its width as it is. -/
theorem grab_inside (hp : current.left ≤ p.x ∧ p.x < current.right) :
    (0 ≤ p.x - current.left ∧ p.x - current.left < current.width) ∧
      max 1 current.width = current.width ∧ max 0 (min current.width (p.x - current.left)) = p.x - current.left := by
  rw [Rect.right] at hp
  omega

theorem demoted_eq (hp : current.left ≤ p.x ∧ p.x < current.right) :
    demoted p current saved viewport =
      (Rect.place ⟨p.x - ((p.x - current.left) * saved.width).tdiv current.width, current.top⟩ saved.size).clamp viewport := by
  obtain ⟨-, hwidth, hgrab⟩ := grab_inside hp
  simp only [demoted, hwidth, hgrab]
  rfl

/-! ## Overflows -/

/-- What a demotion computes are coordinates. -/
structure DemotesInRange (p : Point) (current saved : Rect) (viewport : Int) : Prop where
  reached : Coordinate.InRange (p.x - current.left)
  scaled : Coordinate.InRange (max 0 (min (max 1 current.width) (p.x - current.left)) * saved.width)
  left : Coordinate.InRange
    (p.x - (max 0 (min (max 1 current.width) (p.x - current.left)) * saved.width).tdiv (max 1 current.width))
  room : Coordinate.InRange (viewport - saved.width)

theorem demote?_eq_some_iff {result : Drag × Rect} : demote? p current saved viewport = some result ↔
    DemotesInRange p current saved viewport ∧ demote p current saved viewport = result := by
  simp only [demote?, Option.bind_eq_bind, Option.bind_eq_some_iff, Coordinate.of?_eq_some_iff, Rect.clamp?_eq_some_iff,
    Option.some.injEq]
  constructor
  · rintro ⟨_, ⟨hreached, rfl⟩, _, ⟨hscaled, rfl⟩, _, ⟨hleft, rfl⟩, _, ⟨hroom, rfl⟩, hresult⟩
    exact ⟨⟨hreached, hscaled, hleft, hroom⟩, hresult⟩
  · rintro ⟨⟨hreached, hscaled, hleft, hroom⟩, hresult⟩
    exact ⟨_, ⟨hreached, rfl⟩, _, ⟨hscaled, rfl⟩, _, ⟨hleft, rfl⟩, _, ⟨hroom, rfl⟩, hresult⟩

/-- With the pointer over the window, the product is the only number that may overflow. -/
theorem demotesInRange_iff (hp : current.left ≤ p.x ∧ p.x < current.right) (hv : 0 ≤ p.x ∧ p.x < viewport)
    (hsaved : 1 ≤ saved.width) (hroom : saved.width ≤ viewport) (hviewport : Coordinate.InRange viewport) :
    DemotesInRange p current saved viewport ↔ (p.x - current.left) * saved.width ≤ Coordinate.greatest := by
  obtain ⟨hinside, hwidth, hgrab⟩ := grab_inside hp
  obtain ⟨hoffset, -⟩ := scaled_bounds hinside.1 hinside.2 hsaved
  -- The saved width is at least one, so where the product is in range, the offset is.
  have hle : p.x - current.left ≤ (p.x - current.left) * saved.width := by
    have hmul := Int.mul_le_mul_of_nonneg_left hsaved hinside.1
    rwa [Int.mul_one] at hmul
  constructor
  · intro h
    have hscaled := h.scaled
    rw [hwidth, hgrab] at hscaled
    exact hscaled.2
  · intro h
    simp only [Coordinate.greatest, Coordinate.inRange_iff] at h hviewport
    constructor <;> simp only [hwidth, hgrab, Coordinate.inRange_iff] <;> omega

/-- Small factors give a coordinate. -/
theorem scaled_le {grab width : Int} (hgrab : grab ≤ 46340) (hwidth0 : 0 ≤ width) (hwidth : width ≤ 46341) :
    grab * width ≤ Coordinate.greatest := by
  calc grab * width ≤ 46340 * width := Int.mul_le_mul_of_nonneg_right hgrab hwidth0
    _ ≤ 46340 * 46341 := Int.mul_le_mul_of_nonneg_left hwidth (by decide)
    _ ≤ Coordinate.greatest := by decide

/-! ## The hold -/

/-- Where a drag begins, it takes a window that is inside the viewport no further, and
nothing overflows. -/
theorem candidate?_begin (r : Rect) (p : Point) (htop : Coordinate.InRange r.top)
    (hroom : Coordinate.InRange (viewport - r.width)) :
    (begin p (r.clamp viewport) none).candidate? p r.size viewport = some (r.clamp viewport) := by
  refine candidate?_eq_some_iff.2 ⟨?_, candidate_begin r p viewport⟩
  simp only [begin, Rect.origin, Rect.size, Rect.clamp, Int.sub_self, Int.add_zero, List.forall_mem_cons,
    List.not_mem_nil, false_implies, implies_true, and_true, Coordinate.inRange_iff] at *
  omega

theorem keepsGrab_demote (hp : current.left ≤ p.x ∧ p.x < current.right) (hv : 0 ≤ p.x ∧ p.x < viewport)
    (hsaved : 1 ≤ saved.width) (hroom : saved.width ≤ viewport) (htop : Coordinate.InRange current.top)
    (hviewport : Coordinate.InRange viewport) :
    KeepsGrab p current saved viewport (demote p current saved viewport).1 (demote p current saved viewport).2 := by
  obtain ⟨hinside, -⟩ := grab_inside hp
  obtain ⟨hoffset, hrest⟩ := scaled_bounds hinside.1 hinside.2 hsaved
  generalize hk : ((p.x - current.left) * saved.width).tdiv current.width = offset at hoffset hrest
  have hr : (demote p current saved viewport).2 =
      (Rect.place ⟨p.x - offset, current.top⟩ saved.size).clamp viewport := by
    rw [← hk]
    exact demoted_eq hp
  have hbegin : (demote p current saved viewport).1 = begin p (demote p current saved viewport).2 none := rfl
  have hrange : Coordinate.InRange (viewport - saved.width) := by
    rw [Coordinate.inRange_iff] at hviewport ⊢
    omega
  have again : (demote p current saved viewport).1.candidate? p saved.size viewport =
      some (demote p current saved viewport).2 := by
    rw [hbegin, hr]
    exact candidate?_begin (Rect.place ⟨p.x - offset, current.top⟩ saved.size) p htop hrange
  refine ⟨?_, ?_, ⟨offset, hr, hrest⟩, rfl, again, fun g' hg => ?_⟩
  · rw [hr]
    rfl
  · rw [hr]
    refine Rect.clamp_keeps ?_ hv hroom
    simp only [Rect.place, Rect.right, Rect.size]
    omega
  · rw [followed, hg]
    exact (candidate?_eq_some_iff.1 again).2

/-- With the pointer over the window and in the viewport, and room there for the saved
width, a demotion has a result just if the product is a coordinate (the viewport and the
upper side are given as coordinates). It then keeps the pointer over the window. -/
theorem demote_keepsGrab (hp : current.left ≤ p.x ∧ p.x < current.right) (hv : 0 ≤ p.x ∧ p.x < viewport)
    (hsaved : 1 ≤ saved.width) (hroom : saved.width ≤ viewport) (htop : Coordinate.InRange current.top)
    (hviewport : Coordinate.InRange viewport) :
    ((demote? p current saved viewport).isSome ↔ (p.x - current.left) * saved.width ≤ Coordinate.greatest) ∧
    (0 ≤ current.left → viewport ≤ 46341 → (demote? p current saved viewport).isSome) ∧
    ∀ g r, demote? p current saved viewport = some (g, r) →
      demote p current saved viewport = (g, r) ∧ KeepsGrab p current saved viewport g r := by
  have hsome : (demote? p current saved viewport).isSome ↔
      (p.x - current.left) * saved.width ≤ Coordinate.greatest :=
    (Coordinate.isSome_iff fun _ => demote?_eq_some_iff).trans (demotesInRange_iff hp hv hsaved hroom hviewport)
  refine ⟨hsome, fun hleft hview => ?_, fun g r h => ?_⟩
  · exact hsome.2 (scaled_le (by omega) (by omega) (by omega))
  · obtain ⟨-, hresult⟩ := demote?_eq_some_iff.1 h
    have hkeeps := keepsGrab_demote hp hv hsaved hroom htop hviewport
    rw [hresult] at hkeeps
    exact ⟨hresult, hkeeps⟩

/-- Both widths are moderate, but the product of the grabbed offset and the saved width is no
coordinate. -/
example : demote? ⟨42950, 5⟩ ⟨0, 0, 100000, 50⟩ ⟨0, 0, 50000, 62⟩ 100000 = none := by decide

/-- Near the right end of a narrow window, whose saved width is six times as large. The
clamp moves it to the left, and the pointer is still over it. -/
theorem demote_keepsGrab_clamped :
    let current : Rect := ⟨700, 0, 100, 600⟩
    let saved : Rect := ⟨0, 0, 601, 62⟩
    let g : Drag := ⟨⟨715, 5⟩, ⟨199, 0⟩, none⟩
    (current.left ≤ 715 ∧ 715 < current.right) ∧ 1 ≤ saved.width ∧ saved.width ≤ 800 ∧
      demote? ⟨715, 5⟩ current saved 800 = some (g, ⟨199, 0, 601, 62⟩) ∧
      KeepsGrab ⟨715, 5⟩ current saved 800 g ⟨199, 0, 601, 62⟩ := by
  intro current saved g
  have hdemote : demote? ⟨715, 5⟩ current saved 800 = some (g, ⟨199, 0, 601, 62⟩) := by decide
  refine ⟨by decide, by decide, by decide, hdemote, ?_⟩
  obtain ⟨-, -, hkeeps⟩ := @demote_keepsGrab ⟨715, 5⟩ current saved 800 (by decide) (by decide) (by decide) (by decide)
    (by decide) (by decide)
  exact (hkeeps _ _ hdemote).2

end Drag

end FloatingPanels

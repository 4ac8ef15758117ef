import FloatingPanels.Proofs.Drift
import FloatingPanels.Proofs.Resize
import FloatingPanels.Proofs.Snap.Nearest
/-!
# Resizes, move by move

`pointerMove_resizing` says what a move of the pointer makes of the window that is being
resized, wherever it began and whatever it is snapped to: the sides that its handle does
not pull stay where they were, it is not made smaller than the least size, and it stays
in the viewport from where it began there, among windows that are there.
-/

namespace FloatingPanels

namespace Rect

/-- On the page, and in a viewport of this width. -/
def InView (viewport : Int) (r : Rect) : Prop := 0 ≤ r.left ∧ 0 ≤ r.top ∧ r.right ≤ viewport

instance (viewport : Int) (r : Rect) : Decidable (r.InView viewport) := inferInstanceAs (Decidable (_ ∧ _ ∧ _))

variable {viewport : Int} {r : Rect}

theorem InView.within (h : r.InView viewport) : r.Within viewport := ⟨h.1, h.2.1, fun _ => h.2.2⟩

theorem InView.narrow (h : r.InView viewport) (hw : 0 ≤ r.width) (hh : 0 ≤ r.height) : r.Narrow viewport := by
  obtain ⟨hleft, -, hright⟩ := h
  simp only [right] at hright
  exact ⟨hw, by omega, hh⟩

end Rect

namespace Resize

/-- What is known of a rectangle that a resize comes to. -/
structure Lawful (g : Resize) (viewport : Int) (least : Size) (others : List Rect) (r : Rect) : Prop where
  /-- A side that the handle does not pull stays. -/
  fixed : ∀ side, g.handle.sides.has side = false → r.side side = g.rect.side side
  width : g.handle.sides.horizontal → least.width ≤ r.width
  height : g.handle.sides.vertical → least.height ≤ r.height
  /-- It does not leave the viewport. -/
  inside : g.rect.InView viewport → least.width ≤ g.rect.width → least.height ≤ g.rect.height →
    (∀ o ∈ others, o.InView viewport ∧ 0 ≤ o.width ∧ 0 ≤ o.height) → r.InView viewport

variable {g : Resize} {viewport sensitivity : Int} {least : Size} {others : List Rect} {r : Rect} {s : Snap}

theorem fits_of_inView (h : g.rect.InView viewport) (hw : least.width ≤ g.rect.width)
    (hh : least.height ≤ g.rect.height) : g.Fits viewport least := by
  obtain ⟨hleft, htop, hright⟩ := h
  simp only [Fits, Rect.right, Rect.bottom] at hright ⊢
  omega

/-! ## One axis -/

/-- The start and the length of an extent whose upper or lower end is pulled by `d`. -/
def pullExtent (upper lower : Bool) (lo len d least : Int) (room : Option Int) : Int × Int :=
  if upper then (lo, pullUpper len d least room)
  else if lower then pullLower lo len d least
  else (lo, len)

section
variable {upper lower : Bool} {lo len d leastLen : Int} {room : Option Int}

theorem pullExtent_lower (h : lower = false) : (pullExtent upper lower lo len d leastLen room).1 = lo := by
  subst h
  cases upper <;> rfl

theorem pullExtent_upper (h : upper = false) :
    (pullExtent upper lower lo len d leastLen room).1 + (pullExtent upper lower lo len d leastLen room).2 = lo + len := by
  subst h
  cases lower with
  | true => exact pullLower_upper lo len d leastLen
  | false => rfl

theorem le_pullExtent (h : lower || upper) : leastLen ≤ (pullExtent upper lower lo len d leastLen room).2 := by
  cases upper with
  | true => exact le_pullUpper len d leastLen room
  | false =>
    cases lower with
    | true => exact le_pullLower lo len d leastLen
    | false => cases h

end

/-- The start and the length of an extent one of whose sides is snapped by `d`. -/
def snapExtent (pulled : Option Side) (lower upper : Side) (lo len d least : Int) : Int × Int :=
  if pulled = some lower then
    if least ≤ len - d then (lo + d, len - d) else (lo, len)
  else if pulled = some upper then
    if least ≤ len + d then (lo, len + d) else (lo, len)
  else (lo, len)

section
variable {pulled : Option Side} {lower upper : Side} {lo len d leastLen : Int}

theorem snapExtent_lower (h : pulled ≠ some lower) : (snapExtent pulled lower upper lo len d leastLen).1 = lo := by
  unfold snapExtent
  rw [if_neg h]
  split
  · split <;> rfl
  · rfl

theorem snapExtent_upper (h : pulled ≠ some upper) :
    (snapExtent pulled lower upper lo len d leastLen).1 + (snapExtent pulled lower upper lo len d leastLen).2 =
      lo + len := by
  unfold snapExtent
  rw [if_neg h]
  split
  · split
    · dsimp only
      omega
    · rfl
  · rfl

theorem le_snapExtent (h : leastLen ≤ len) : leastLen ≤ (snapExtent pulled lower upper lo len d leastLen).2 := by
  unfold snapExtent
  split
  · split <;> assumption
  · split
    · split <;> assumption
    · exact h

end

/-! ## Before a snap -/

/-- The sides of a candidate are the ends of two extents. -/
theorem candidate_side (p : Point) {side : Side} (h : g.handle.sides.has side = false) :
    (g.candidate p viewport least).side side = g.rect.side side := by
  cases side with
  | left => exact pullExtent_lower h
  | right => exact pullExtent_upper h
  | top => exact pullExtent_lower h
  | bottom => exact pullExtent_upper h

theorem candidate_width (p : Point) (h : g.handle.sides.horizontal) :
    least.width ≤ (g.candidate p viewport least).width := le_pullExtent h

theorem candidate_height (p : Point) (h : g.handle.sides.vertical) :
    least.height ≤ (g.candidate p viewport least).height := le_pullExtent h

theorem candidate_right_le (p : Point) (hr : g.rect.right ≤ viewport) (hw : least.width ≤ g.rect.width) :
    (g.candidate p viewport least).right ≤ viewport := by
  cases h : g.handle.sides.right with
  | false =>
    have hfixed : (g.candidate p viewport least).right = g.rect.right :=
      candidate_side p (show g.handle.sides.has .right = false from h)
    rwa [hfixed]
  | true =>
    simp only [Rect.right] at hr
    have := pullUpper_le g.rect.width (p.x - g.start.x) (show least.width ≤ viewport - g.rect.left by omega)
    simp only [Rect.right, candidate, h, if_true]
    omega

theorem candidate_lawful (p : Point) : g.Lawful viewport least others (g.candidate p viewport least) where
  fixed _ h := candidate_side p h
  width := candidate_width p
  height := candidate_height p
  inside hi hw hh _ := by
    have hc : (g.candidate p viewport least).Within viewport := candidate_within p hi.within (fits_of_inView hi hw hh)
    exact ⟨hc.1, hc.2.1, candidate_right_le p hi.2.2 hw⟩

/-! ## After it -/

theorem snapped_x (r : Rect) (s : Snap) (least : Size) :
    ((snapped r s least).left, (snapped r s least).width) =
      snapExtent s.xSide .left .right r.left r.width s.dx least.width := by
  unfold snapped snapExtent
  rcases s.xSide with _ | _ | _ | _ | _ <;> rfl

theorem snapped_y (r : Rect) (s : Snap) (least : Size) :
    ((snapped r s least).top, (snapped r s least).height) =
      snapExtent s.ySide .top .bottom r.top r.height s.dy least.height := by
  unfold snapped snapExtent
  rcases s.ySide with _ | _ | _ | _ | _ <;> rfl

/-- A side moves only if it was pulled itself. -/
theorem snapped_side {side : Side} (hx : s.xSide ≠ some side) (hy : s.ySide ≠ some side) :
    (snapped r s least).side side = r.side side := by
  cases side with
  | left => exact (congrArg Prod.fst (snapped_x r s least)).trans (snapExtent_lower hx)
  | right => exact (congrArg (fun e => e.1 + e.2) (snapped_x r s least)).trans (snapExtent_upper hx)
  | top => exact (congrArg Prod.fst (snapped_y r s least)).trans (snapExtent_lower hy)
  | bottom => exact (congrArg (fun e => e.1 + e.2) (snapped_y r s least)).trans (snapExtent_upper hy)

theorem snapped_width (h : least.width ≤ r.width) : least.width ≤ (snapped r s least).width := by
  rw [show (snapped r s least).width = _ from congrArg Prod.snd (snapped_x r s least)]
  exact le_snapExtent h

theorem snapped_height (h : least.height ≤ r.height) : least.height ≤ (snapped r s least).height := by
  rw [show (snapped r s least).height = _ from congrArg Prod.snd (snapped_y r s least)]
  exact le_snapExtent h

theorem snapped_right_le (hr : r.right ≤ viewport) (hx : s.xSide = some .right → r.right + s.dx ≤ viewport) :
    (snapped r s least).right ≤ viewport := by
  simp only [Rect.right, snapped] at hr hx ⊢
  split
  · split <;> dsimp only <;> omega
  · have := hx ‹_›
    split <;> dsimp only <;> omega
  · exact hr

theorem snapped_lawful (p : Point)
    (h : (g.candidate p viewport least).snap g.handle.sides others viewport sensitivity = some s) :
    g.Lawful viewport least others (snapped (g.candidate p viewport least) s least) where
  fixed side hside := by
    refine (snapped_side (fun hx => ?_) fun hy => ?_).trans (candidate_side p hside)
    · rw [(Rect.snap_line (a := .x) h hx).1] at hside
      cases hside
    · rw [(Rect.snap_line (a := .y) h hy).1] at hside
      cases hside
  width hx := snapped_width (candidate_width p hx)
  height hy := snapped_height (candidate_height p hy)
  inside hi hw hh ho := by
    have hin : (snapped (g.candidate p viewport least) s least).Within viewport :=
      snap_within p hi.within (fits_of_inView hi hw hh)
        (fun o hm => ⟨(ho o hm).1.within, (ho o hm).1.narrow (ho o hm).2.1 (ho o hm).2.2⟩) h
    refine ⟨hin.1, hin.2.1, snapped_right_le (candidate_right_le p hi.2.2 hw) fun hx => ?_⟩
    rcases (Rect.snap_right h hx).2 with hline | ⟨o, hm, hline⟩
    · exact Int.le_of_eq hline
    · obtain ⟨⟨-, -, hright⟩, hwidth, -⟩ := ho o hm
      simp only [List.mem_cons, List.not_mem_nil, or_false] at hline
      simp only [Rect.right] at hright hline ⊢
      omega

end Resize

namespace Desktop

variable {d : Desktop} {id : WindowId} {w : Window} {g : Resize}

theorem resizeTo_lawful (d : Desktop) (w : Window) (g : Resize) (p : Point) :
    g.Lawful d.page.viewport.width d.settings.least (d.clingRects w.id) (d.resizeTo w g p).rect := by
  simp only [resizeTo]
  split
  · split
    · exact Resize.snapped_lawful p ‹_›
    · exact Resize.candidate_lawful p
  · exact Resize.candidate_lawful p

end Desktop

/-- A host that begins to resize a window at a corner, which points to another window. -/
def resizeTowards : Program :=
  .create [.passive { kind := "note" }] fun _ => .then_ (.beginDrag ⟨1⟩ ⟨0, 0⟩) (.then_ (.pointerMove ⟨200, 100⟩)
    (.then_ .pointerUp (.create [.passive { kind := "note" }] fun _ =>
      .then_ (.beginResize ⟨2⟩ .bottomRight ⟨50, 60⟩) .accept)))

end FloatingPanels

import FloatingPanels.Proofs.Drift
import FloatingPanels.Proofs.Rect
import FloatingPanels.Proofs.Snap.Nearest
/-!
# Drags, move by move

`pointerMove_dragging` says what a move of the pointer makes of the window that is being
dragged, wherever it is pulled: it has the size it had, or the saved one, it stays on the
page and in the viewport, and it is no farther than the sensitivity from where the pointer
alone would take it (`Drag.followed`, and in a formula `left_followed` and `top_followed`).
-/

namespace FloatingPanels

namespace Drag

/-- Where the pointer takes a window from the rectangle `r`. A window that was maximized is
demoted first. -/
def followed (g : Drag) (p : Point) (r : Rect) (viewport : Int) : Rect :=
  match g.restore with
  | none => g.candidate p r.size viewport
  | some saved =>
    let (g', r') := demote p r saved viewport
    g'.candidate p r'.size viewport

/-- What is known of a rectangle that a drag comes to from `before`. -/
structure Lawful (g : Drag) (p : Point) (before : Rect) (viewport sensitivity : Int) (cling : Bool) (r : Rect) : Prop where
  size : r.size = (g.restore.getD before).size
  left : 0 ≤ r.left ∧ r.left ≤ max 0 (viewport - r.width)
  top : 0 ≤ r.top
  nearLeft : ((r.left - (g.followed p before viewport).left).natAbs : Int) ≤ max sensitivity 0
  nearTop : ((r.top - (g.followed p before viewport).top).natAbs : Int) ≤ max sensitivity 0
  /-- Without clinging the pointer alone decides. -/
  loose : cling = false → r = g.followed p before viewport

variable {g : Drag} {viewport sensitivity : Int} {s : Snap}

/-! ### Where the pointer takes a window -/

/-- Where a drag begins, it takes a window that is inside the viewport no further. -/
theorem candidate_begin (r : Rect) (p : Point) (viewport : Int) :
    (begin p (r.clamp viewport) none).candidate p r.size viewport = r.clamp viewport := by
  have hplace : ∀ q : Point, q = (r.clamp viewport).origin → Rect.place q r.size = r.clamp viewport := by
    rintro q rfl
    rfl
  rw [candidate, hplace]
  · exact Rect.clamp_clamp r viewport
  · simp only [begin, Int.sub_self, Int.add_zero]

/-- Where the pointer takes the corner of a window, before the clamp: as far from where it was
when the drag began as the pointer is from where it went down. With a window to demote, the
corner is to the left of the pointer by the grabbed offset, scaled to the saved width. -/
def target (g : Drag) (p : Point) (r : Rect) : Point :=
  match g.restore with
  | none => ⟨g.origin.x + (p.x - g.start.x), g.origin.y + (p.y - g.start.y)⟩
  | some saved =>
    ⟨p.x - (max 0 (min (max 1 r.width) (p.x - r.left)) * saved.width).tdiv (max 1 r.width), r.top⟩

theorem followed_eq (g : Drag) (p : Point) (r : Rect) (viewport : Int) :
    g.followed p r viewport = (Rect.place (g.target p r) (g.restore.getD r).size).clamp viewport := by
  unfold followed target
  cases g.restore with
  | none => rfl
  | some saved => exact candidate_begin _ p viewport

theorem left_followed (g : Drag) (p : Point) (r : Rect) (viewport : Int) :
    (g.followed p r viewport).left =
      max 0 (min (g.target p r).x (max 0 (viewport - (g.restore.getD r).width))) := by
  rw [followed_eq]
  rfl

theorem top_followed (g : Drag) (p : Point) (r : Rect) (viewport : Int) :
    (g.followed p r viewport).top = max 0 (g.target p r).y := by
  rw [followed_eq]
  rfl

/-! ### In coordinates -/

theorem candidate?_eq_some_iff {p : Point} {size : Size} {r : Rect} : g.candidate? p size viewport = some r ↔
    (∀ n ∈ [p.x - g.start.x, g.origin.x + (p.x - g.start.x), p.y - g.start.y, g.origin.y + (p.y - g.start.y),
      viewport - size.width], Coordinate.InRange n) ∧ g.candidate p size viewport = r := by
  simp only [candidate?, Option.bind_eq_bind, Option.bind_eq_some_iff, Coordinate.of?_eq_some_iff,
    Rect.clamp?_eq_some_iff, List.forall_mem_cons, List.not_mem_nil, false_implies, implies_true, and_true]
  constructor
  · rintro ⟨_, ⟨hdx, rfl⟩, _, ⟨hleft, rfl⟩, _, ⟨hdy, rfl⟩, _, ⟨htop, rfl⟩, hroom, hr⟩
    exact ⟨⟨hdx, hleft, hdy, htop, hroom⟩, hr⟩
  · rintro ⟨⟨hdx, hleft, hdy, htop, hroom⟩, hr⟩
    exact ⟨_, ⟨hdx, rfl⟩, _, ⟨hleft, rfl⟩, _, ⟨hdy, rfl⟩, _, ⟨htop, rfl⟩, hroom, hr⟩

/-- Over moderate distances no drag overflows. -/
theorem candidate?_of_moderate {p : Point} {size : Size}
    (h : ∀ n ∈ [p.x, p.y, g.start.x, g.start.y, g.origin.x, g.origin.y, size.width, viewport], Coordinate.Moderate n) :
    g.candidate? p size viewport = some (g.candidate p size viewport) := by
  refine candidate?_eq_some_iff.2 ⟨?_, rfl⟩
  simp only [List.forall_mem_cons, List.not_mem_nil, false_implies, implies_true, and_true, Coordinate.inRange_iff,
    Coordinate.Moderate] at h ⊢
  omega

/-! ### Every move is lawful -/

theorem followed_lawful (p : Point) (before : Rect) (cling : Bool) :
    g.Lawful p before viewport sensitivity cling (g.followed p before viewport) := by
  obtain ⟨hleft, hright, htop⟩ := (Rect.place (g.target p before) (g.restore.getD before).size).clamp_bounds viewport
  have hzero : ∀ n : Int, ((n - n).natAbs : Int) ≤ max sensitivity 0 := by omega
  refine ⟨?_, ?_, ?_, hzero _, hzero _, fun _ => rfl⟩
  · rw [followed_eq]
    rfl
  · rw [followed_eq]
    exact ⟨hleft, hright⟩
  · rw [followed_eq]
    exact htop

/-- A snap moves the window by the sensitivity at most, and the clamp that follows it keeps
it in the viewport. -/
theorem pulled_lawful (p : Point) (before : Rect) {movable : Sides} {others : List Rect}
    (h : (g.followed p before viewport).snap movable others viewport sensitivity = some s) :
    g.Lawful p before viewport sensitivity true ((s.move (g.followed p before viewport)).clamp viewport) := by
  have hx : (s.dx.natAbs : Int) ≤ max sensitivity 0 := Rect.natAbs_delta_le h .x
  have hy : (s.dy.natAbs : Int) ≤ max sensitivity 0 := Rect.natAbs_delta_le h .y
  have hfollowed := g.followed_eq p before viewport
  generalize hr : Rect.place (g.target p before) (g.restore.getD before).size = r at hfollowed
  obtain ⟨hdx, hdy⟩ := r.natAbs_clamp_shift s.dx s.dy viewport
  obtain ⟨hleft, hright, htop⟩ := (s.move (r.clamp viewport)).clamp_bounds viewport
  rw [hfollowed]
  refine ⟨?_, ⟨hleft, hright⟩, htop, ?_, ?_, fun hf => by cases hf⟩
  · rw [← hr]
    rfl
  · rw [hfollowed]
    exact Int.le_trans (Int.ofNat_le.2 hdx) hx
  · rw [hfollowed]
    exact Int.le_trans (Int.ofNat_le.2 hdy) hy

end Drag

namespace Desktop

variable {d : Desktop} {id : WindowId} {w : Window} {g : Drag}

theorem dragTo_rect (d : Desktop) (w : Window) (g : Drag) (p : Point) :
    (d.dragTo w g p).rect =
      let free := g.followed p w.rect d.page.viewport.width
      if w.caps.cling then
        match free.snap .all (d.clingRects w.id) d.page.viewport.width d.settings.sensitivity with
        | some s => (s.move free).clamp d.page.viewport.width
        | none => free
      else free := by
  unfold dragTo Drag.followed
  cases g.restore <;> rfl

theorem dragTo_lawful (d : Desktop) (w : Window) (g : Drag) (p : Point) :
    g.Lawful p w.rect d.page.viewport.width d.settings.sensitivity w.caps.cling (d.dragTo w g p).rect := by
  rw [dragTo_rect]
  dsimp only
  split
  · rename_i hcling
    rw [hcling]
    split
    · exact Drag.pulled_lawful p w.rect ‹_›
    · exact Drag.followed_lawful p w.rect true
  · exact Drag.followed_lawful p w.rect w.caps.cling

theorem dragTo_mode (d : Desktop) (w : Window) (g : Drag) (p : Point) :
    ∃ g' : Drag, (d.dragTo w g p).mode = .dragging g' ∧ g'.restore = none := by
  simp only [dragTo]
  cases hr : g.restore with
  | none => exact ⟨g, rfl, hr⟩
  | some saved => exact ⟨_, rfl, rfl⟩

end Desktop

/-- A host that maximizes a window beside another one, and begins to drag it. -/
def dragMaximizedBeside : Program :=
  .create [.passive { kind := "note" }] fun _ => .then_ (.beginDrag ⟨1⟩ ⟨0, 0⟩) (.then_ (.pointerMove ⟨200, 100⟩)
    (.then_ .pointerUp (.create [.passive { kind := "note" }] fun _ =>
      .then_ (.maximize ⟨2⟩) (.then_ (.beginDrag ⟨2⟩ ⟨400, 5⟩) .accept))))

end FloatingPanels

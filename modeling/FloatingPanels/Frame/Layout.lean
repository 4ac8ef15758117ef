import FloatingPanels.Frame.Basic
/-!
# Frame layout

Where the parts of a window lie on the page, and which part is under a point.
The header lies inside the border; its buttons stand at the right end and the
title takes the rest. The footer lies at the lower end, and the content between
the two. All of this is computed in coordinates as long as the rectangle of the
window and the measures of its frame are moderate (`Coordinate.Moderate`).
-/

namespace FloatingPanels

inductive Part where
  | title
  | control (c : Control)
  | handle (h : Handle)
  | content
  | footer
  deriving DecidableEq, Repr, Inhabited

/-- The resize handles of a rectangle: squares at the corners, and between them
the rest of each side, where there is any. -/
def Rect.handles (r : Rect) (thickness : Int) : List (Handle × Rect) :=
  if r.isEmpty || thickness ≤ 0 then []
  else
    let t := max 1 (min (min thickness (r.width / 2)) (r.height / 2))
    let right := r.right - t
    let bottom := r.bottom - t
    [(.topLeft, ⟨r.left, r.top, t, t⟩), (.topRight, ⟨right, r.top, t, t⟩),
     (.bottomLeft, ⟨r.left, bottom, t, t⟩), (.bottomRight, ⟨right, bottom, t, t⟩)] ++
    (if 2 * t < r.width then
      [(.top, ⟨r.left + t, r.top, r.width - 2 * t, t⟩),
       (.bottom, ⟨r.left + t, bottom, r.width - 2 * t, t⟩)] else []) ++
    (if 2 * t < r.height then
      [(.left, ⟨r.left, r.top + t, t, r.height - 2 * t⟩),
       (.right, ⟨right, r.top + t, t, r.height - 2 * t⟩)] else [])

structure Layout where
  outer : Rect
  header : Rect
  title : Rect
  /-- From right to left. -/
  controls : List (Control × Rect)
  content : Rect
  footer : Rect
  handles : List (Handle × Rect)
  deriving DecidableEq, Repr, Inhabited

namespace Layout

/-- The buttons of a header from its right end, and where the last of them
begins. None reaches further left than the header. -/
def placeControls (header : Rect) (width : Int) :
    Int → List Control → List (Control × Rect) × Int
  | right, [] => ([], right)
  | right, c :: cs =>
    let left := max header.left (right - width)
    let (placed, rest) := placeControls header width left cs
    ((c, ⟨left, header.top, right - left, header.height⟩) :: placed, rest)

def ofControls (outer : Rect) (m : Metrics) (cs : List Control) : Layout :=
  let inset := m.margin + m.border
  let inner : Rect :=
    ⟨outer.left + inset, outer.top + inset, max 0 (outer.width - 2 * inset),
     max 0 (outer.height - 2 * inset)⟩
  let header : Rect := ⟨inner.left, inner.top, inner.width, min m.headerHeight inner.height⟩
  let (controls, right) := placeControls header m.buttonWidth header.right cs
  let footerHeight := min m.footerHeight (max 0 (inner.height - header.height))
  let footer : Rect := ⟨inner.left, inner.bottom - footerHeight, inner.width, footerHeight⟩
  { outer, header, controls, footer
    title := ⟨header.left, header.top, right - header.left, header.height⟩
    content :=
      ⟨inner.left + m.padding, header.bottom + m.padding, max 0 (inner.width - 2 * m.padding),
       max 0 (footer.top - header.bottom - 2 * m.padding)⟩
    handles := outer.handles m.handle }

def compute (outer : Rect) (m : Metrics) (f : Frame) : Layout := ofControls outer m f.controls

/-- The part under a point. Handles come before buttons, buttons before the
title and the footer, and any other point of the window is content. -/
def partAt (l : Layout) (p : Point) : Option Part :=
  if !l.outer.contains p then none
  else
    match l.handles.find? fun h => h.2.contains p with
    | some (h, _) => some (.handle h)
    | none =>
      match l.controls.find? fun c => c.2.contains p with
      | some (c, _) => some (.control c)
      | none =>
        if l.title.contains p then some .title
        else if l.footer.contains p then some .footer
        else some .content

end Layout

end FloatingPanels

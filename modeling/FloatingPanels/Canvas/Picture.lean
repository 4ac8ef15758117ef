import FloatingPanels.Canvas.Basic
import FloatingPanels.Desktop.Basic
/-!
# Pictures of a desktop

Windows are painted from bottom to top, so that higher windows cover lower ones.
Hidden windows are not painted; the status line lists their titles.
-/

namespace FloatingPanels

structure Theme where
  header : Style := { bg := some .darkGray, fg := some .white }
  headerTop : Style := { bg := some .blue, fg := some .white, bold := true }
  border : Style := { fg := some .darkGray }
  /-- The border of a window while a gesture is going on. -/
  borderLocked : Style := { fg := some .yellow }
  body : Style := {}
  error : Style := { fg := some .red }
  status : Style := { bg := some .darkGray, fg := some .white }
  launcher : Style := { fg := some .cyan }
  deriving Repr, Inhabited

namespace Picture

def glyph (mode : Mode) : Control → String
  | .close => "[x]"
  | .maximize => if mode.isMaximized then "[-]" else "[+]"
  | .hide => "[_]"
  | .stick => if mode.isStuck then "[S]" else "[s]"

/-- The title as it is painted: a star marks stuck windows. -/
def shownTitle (w : Window) : String :=
  if w.mode.isStuck then "* " ++ w.frame.title else w.frame.title

/-- Texts in rows from `r` on, as many as it has room for. -/
def lines (r : Rect) (texts : List String) (style : Style) : List Stroke :=
  (texts.take r.height.toNat).mapIdx fun i s => .text r.left (r.top + i) r.width s style

/-- A window: its ground and border, then the header, the content and the error. -/
def window (t : Theme) (m : Metrics) (topmost : Bool) (w : Window) : List Stroke :=
  let l := w.layout m
  let header := if topmost then t.headerTop else t.header
  [.fill l.outer ' ' t.body] ++
    Stroke.border l.outer (if w.frame.isLocked then t.borderLocked else t.border) ++
    [.fill l.header ' ' header,
     .text l.title.left l.title.top l.title.width (shownTitle w) header] ++
    (l.controls.map fun (c, r) => .text r.left r.top r.width (glyph w.mode c) header) ++
    lines l.content w.frame.contentLines t.body ++
    match w.frame.error with
    | some e => [.text l.footer.left l.footer.top l.footer.width e t.error]
    | none => []

def visible (d : Desktop) : List Window := d.stacked.filter fun w => !w.mode.isHidden

def desktop (t : Theme) (d : Desktop) : List Stroke :=
  (visible d).flatMap fun w =>
    window t d.settings.metrics (d.stack.getLast? = some w.id) w

def trayText (d : Desktop) : String :=
  String.intercalate " " (d.hiddenWindows.map fun w => "[" ++ w.frame.title ++ "]")

/-- The first row of an area, with a hint at the left and the tray at the right. -/
def status (t : Theme) (d : Desktop) (area : CellArea) (hint : String) : List Stroke :=
  let row : Rect := ⟨area.x, area.y, area.width, 1⟩
  let tray := String.ofList ((trayText d).toList.take area.width)
  [.fill row ' ' t.status, .text row.left row.top row.width hint t.status,
   .text (row.right - tray.length) row.top tray.length tray t.status]

def launcher (t : Theme) (area : Rect) (entries : List String) : List Stroke :=
  [.fill area ' ' t.body] ++ Stroke.border area t.border ++
    [.text (area.left + 1) area.top (area.width - 2) "launch" t.border] ++
    entries.mapIdx fun i entry =>
      .text (area.left + 1) (area.top + 1 + i) (area.width - 2) s!"{i + 1} {entry}" t.launcher

end Picture

namespace Canvas

def paintDesktop (c : Canvas) (t : Theme) (d : Desktop) : Canvas := c.paint (Picture.desktop t d)

/-- The status line of an area that is not empty, in what the canvas has of it. -/
def paintStatus (c : Canvas) (t : Theme) (d : Desktop) (area : CellArea) (hint : String) : Canvas :=
  if area.width = 0 || area.height = 0 then c
  else c.paint (Picture.status t d (area.meet c.area) hint)

def paintLauncher (c : Canvas) (t : Theme) (area : Rect) (entries : List String) : Canvas :=
  c.paint (Picture.launcher t area entries)

end Canvas

end FloatingPanels

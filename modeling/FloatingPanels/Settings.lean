import FloatingPanels.Geometry
/-!
# Settings

The measures of a window's frame and the limits of its gestures.
-/

namespace FloatingPanels

structure Metrics where
  headerHeight : Int := 28
  footerHeight : Int := 20
  border : Int := 1
  padding : Int := 6
  margin : Int := 0
  /-- The thickness of the resize handles along the border. -/
  handle : Int := 6
  /-- The width of each button in the header. -/
  buttonWidth : Int := 22
  deriving DecidableEq, Repr, Inhabited

namespace Metrics

def cells : Metrics :=
  { headerHeight := 1, footerHeight := 1, border := 1, padding := 0, margin := 0, handle := 1,
    buttonWidth := 3 }

/-- Margin, border and padding on the left and the right. -/
def chromeWidth (m : Metrics) : Int := 2 * (m.margin + m.border + m.padding)

/-- Margin, border and padding above and below. -/
def chromeHeight (m : Metrics) : Int := 2 * (m.margin + m.border + m.padding)

end Metrics

structure Settings where
  /-- No window is created or resized below this size. -/
  least : Size := ⟨50, 50⟩
  /-- The largest distance at which a side is pulled onto a line. -/
  sensitivity : Int := 40
  metrics : Metrics := {}
  deriving DecidableEq, Repr, Inhabited

end FloatingPanels

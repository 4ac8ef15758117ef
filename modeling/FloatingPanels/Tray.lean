import FloatingPanels.Page
/-!
# The tray

Hidden windows are listed in the tray with the titles they had when they were
hidden, in the order in which they were hidden.
-/

namespace FloatingPanels

/-- Hidden windows and their titles. -/
abbrev Tray := Keyed WindowId String

namespace Tray

/-- A window that is listed already keeps its place and its title. -/
def hide (t : Tray) (id : WindowId) (title : String) : Tray :=
  if t.hasKey id then t else t ++ [(id, title)]

def restore (t : Tray) (id : WindowId) : Tray := Keyed.remove id t

end Tray

end FloatingPanels

import FloatingPanels.App.Basic
import FloatingPanels.Canvas.Picture
/-!
# The screen of the application

The launcher is painted first, so that windows cover it; the status line comes
last and covers windows.
-/

namespace FloatingPanels

namespace App

def hint : String := " 1-3 open  tab cycle  r refresh  u unhide  x close  q quit"

def statusArea (columns rows : Nat) : CellArea := ⟨0, rows - 1, columns, 1⟩

def draw (a : App) (columns rows : Nat) : Canvas :=
  let theme : Theme := {}
  (((Canvas.blank ⟨0, 0, columns, rows⟩).paintLauncher theme
      (launcherRect a.desktop.page.viewport) (Panel.all.map Panel.kind)).paintDesktop
        theme a.desktop).paintStatus theme a.desktop (statusArea columns rows) hint

end App

end FloatingPanels

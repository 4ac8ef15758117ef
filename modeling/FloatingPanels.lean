import FloatingPanels.Frame.Chrome
import FloatingPanels.Frame.Layout
import FloatingPanels.Template
import FloatingPanels.Tray
import FloatingPanels.Mouse
import FloatingPanels.Session.Machine
import FloatingPanels.Canvas.Picture
import FloatingPanels.Terminal.Loop
import FloatingPanels.Log
import FloatingPanels.CommandLine
import FloatingPanels.App.Screen
import FloatingPanels.Main
import FloatingPanels.Proofs.Integrity
import FloatingPanels.Proofs.Stacking
import FloatingPanels.Proofs.Subscriptions
import FloatingPanels.Proofs.Delivery
import FloatingPanels.Proofs.Frame.Lock
import FloatingPanels.Proofs.Desktop.Posture
import FloatingPanels.Proofs.Desktop.Shift
import FloatingPanels.Proofs.Deeds
import FloatingPanels.Proofs.Gestures
import FloatingPanels.Proofs.SavedRect
import FloatingPanels.Proofs.Filling
import FloatingPanels.Proofs.Snap.Nearest
import FloatingPanels.Proofs.Snap.Rest
import FloatingPanels.Proofs.Resize
import FloatingPanels.Proofs.Containment
import FloatingPanels.Proofs.Refusals
import FloatingPanels.Proofs.Creations
import FloatingPanels.Proofs.Desktop.Company
import FloatingPanels.Proofs.Rounds
import FloatingPanels.Proofs.Failures
import FloatingPanels.Proofs.Schedule
import FloatingPanels.Proofs.Permissions
import FloatingPanels.Proofs.Stuck
import FloatingPanels.Proofs.Desktop.Local
import FloatingPanels.Proofs.Touch
import FloatingPanels.Proofs.Isolation
import FloatingPanels.Proofs.Addresses
import FloatingPanels.Proofs.Drift
import FloatingPanels.Proofs.Markup.Balance
import FloatingPanels.Proofs.Markup.Cursor
import FloatingPanels.Proofs.Markup.Flow
import FloatingPanels.Proofs.Frame.Slots
import FloatingPanels.Proofs.Canvas.Stroke
import FloatingPanels.Proofs.Canvas.Ownership
import FloatingPanels.Proofs.Canvas.Bleed
import FloatingPanels.Proofs.Desktop.Rearranged
import FloatingPanels.Proofs.Limit
import FloatingPanels.Proofs.App.History
import FloatingPanels.Proofs.App.Presses
import FloatingPanels.Proofs.App.Keys
import FloatingPanels.Proofs.App.Panels
import FloatingPanels.Proofs.App.Openings
import FloatingPanels.Proofs.App.About
import FloatingPanels.Proofs.App.Counts
import FloatingPanels.Proofs.Pointer.Resizing
import FloatingPanels.Proofs.Pointer.Dragging
import FloatingPanels.Proofs.Pointer.Demotion
import FloatingPanels.Proofs.Frame.Fit
import FloatingPanels.Proofs.Frame.Tiling
import FloatingPanels.Proofs.Frame.Handles
import FloatingPanels.Proofs.Hits
import FloatingPanels.Proofs.Markup.WellFormed
import FloatingPanels.Proofs.Markup.Edits
import FloatingPanels.Proofs.Pointer.DoubleClicks
import FloatingPanels.Proofs.Pointer.Clicks
import FloatingPanels.Proofs.App.Tabs
import FloatingPanels.Proofs.Terminal.Conservation
import FloatingPanels.Proofs.Templates
import FloatingPanels.Proofs.Canvas.Confinement
import FloatingPanels.Proofs.Canvas.Clipping
import FloatingPanels.Proofs.Markup.Places
import FloatingPanels.Proofs.Frame.Hooks

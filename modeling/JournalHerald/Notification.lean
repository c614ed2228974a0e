import JournalHerald.Value

/-!
# Notifications

A notification is a message with a header, as it is queued for the display. A presentation is a notification
with its times: how long it is shown, how long it takes with its fading in and out, and when its window
closes.
-/

namespace JournalHerald

/-- A message with a header. -/
structure Notification where
  header : Text
  parts : List Part := []
  /-- How many seconds the message stays; without a positive number it is the usual one. -/
  displayDuration : Int := 0
  deriving DecidableEq, Repr, Inhabited

/-- The text of a notification. -/
def Notification.text (n : Notification) : Text :=
  n.parts.flatMap Part.text

/-- What the display needs to show a notification. -/
structure Presentation where
  header : Text
  parts : List Part
  displaySeconds : Int
  /-- Fading in takes one second. -/
  durationSeconds : Int
  /-- Fading out takes another. -/
  closeSeconds : Int
  deriving DecidableEq, Repr, Inhabited

/-- How a notification is shown, given the usual number of seconds. -/
def Notification.presentation (usual : Int) (n : Notification) : Presentation :=
  let display := if 0 < n.displayDuration then n.displayDuration else usual
  { header := n.header, parts := n.parts, displaySeconds := display
    durationSeconds := display + 1, closeSeconds := display + 2 }

end JournalHerald

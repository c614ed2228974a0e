import JournalHerald.Chronicle
import JournalHerald.Herald.Clockwork
import JournalHerald.Herald.Header
import JournalHerald.Herald.Listener
import JournalHerald.Journal.EntryId
import JournalHerald.Notification
import JournalHerald.Number.Double
import JournalHerald.Settings.Defaults

/-!
# The herald

The herald turns events into notifications. While it runs, an event of the present whose kind is announced in
the settings becomes a notification; an event of the past only tells how far the replay of the journal files
has come. When it starts, the herald greets the commander, and on every full hour it announces the play time.

* `Herald` is the state, with the listeners for notifications and for progress;
* `Herald.start` and `Herald.stop` begin and end the announcements, `Herald.handle` handles an event,
  `Herald.strike` is what happens on the hour;
* `Herald.notify` composes a message and tells the listeners, `Herald.progress` tells them a percentage.
-/

namespace JournalHerald

open Herald in
/-- The state of the herald. -/
structure Herald where
  settings : Settings
  /-- The names of the files that the replay goes through, oldest first. -/
  fileNames : List Text := []
  /-- The name of the file whose entries are being replayed. -/
  currentFile : Text := ""
  clockwork : Clockwork := {}
  notificationListeners : List (Listener Notification) := []
  progressListeners : List (Listener Int) := []

namespace Herald

/-- The herald runs. -/
def isRunning (h : Herald) : Bool := h.clockwork.running

/-- Set the files of the replay by their paths. -/
def setFiles (paths : List Text) (h : Herald) : Herald :=
  { h with fileNames := paths.map Journal.baseName, currentFile := "" }

/-- End the announcements. -/
def stop (h : Herald) : Herald :=
  { h with clockwork := h.clockwork.stop }

/-- Stop the herald if somebody wants it. -/
def stopIf (wanted : Bool) (h : Herald) : Herald :=
  if wanted then h.stop else h

/-- Tell the listeners a percentage. -/
def progress (percent : Int) (h : Herald) : Herald :=
  let listeners := tellAll percent h.progressListeners
  { h with progressListeners := listeners }.stopIf (wantsStop listeners)

/-- Tell the listeners a notification. -/
def tell (n : Notification) (h : Herald) : Herald :=
  let listeners := tellAll n h.notificationListeners
  { h with notificationListeners := listeners }.stopIf (wantsStop listeners)

/-- Compose a message and tell the listeners. Nobody is told anything if composing fails. -/
def notify (chronicle : Chronicle) (header : Text) (event : Option Event) (filter : Bool)
    (format : Text) (duration : Int) (h : Herald) : Herald × Option Notification :=
  let request : Message.Request :=
    { event, filterOnCommander := filter
      textStyle := h.settings.textStyle, tokenStyle := h.settings.tokenStyle }
  match chronicle.compose request format with
  | .ok parts =>
    let n : Notification := ⟨header, parts, duration⟩
    (h.tell n, some n)
  | .error _ => (h, none)

/-- Announce an event, or the hour. -/
def announce (chronicle : Chronicle) (a : Announcement) (header : Text) (event : Option Event)
    (h : Herald) : Herald × Option Notification :=
  h.notify chronicle header event h.settings.filterOnCommander a.format a.displayDuration

/-- The header of the greeting. -/
def greetingHeader : Text := "SIOUX Online"

/-- How many seconds the greeting stays. -/
def greetingDuration : Int := 15

/-- The format of the greeting. -/
def greetingFormat : Text :=
  "Hello Cmdr \x7bcommander:Name\x7d!\nCurrent ship: \x7bship\x7d\n" ++
    "Current star system: \x7bstarSystem\x7d\nSessions played: \x7bSessionsPlayed\x7d\n" ++
    "Time played: \x7bTotalTimePlayed\x7d"

/-- The header of the announcement on the hour. -/
def hourHeader : Text := "SIOUX Update"

/-- Greet the commander. -/
def greet (chronicle : Chronicle) (h : Herald) : Herald :=
  (h.notify chronicle greetingHeader none false greetingFormat greetingDuration).1

/-- Set the alarm for the next full hour. -/
def setAlarm (now : Timestamp) (h : Herald) : Herald :=
  { h with clockwork := h.clockwork.set now.secondsToNextHour }

/-- Begin the announcements. -/
def start (chronicle : Chronicle) (now : Timestamp) (h : Herald) : Herald :=
  let h := h.stop
  let h := { h with clockwork := h.clockwork.run }
  ((h.progress 100).greet chronicle).setAlarm now

/-- How far the replay is when it comes to the file at a place: the files in front of it in percent of all
files, a quotient in double precision without its fractional part. -/
def percentAt? (place count : Nat) : Option Int :=
  (Double.ofRatio false (place * 100) count).toInt?

/-- Tell how far the replay is when it comes to another file. -/
def replay (filename : Option Text) (h : Herald) : Herald :=
  match filename with
  | none => h
  | some name =>
    if name = "" ∨ name = h.currentFile then h
    else
      let h := { h with currentFile := name }
      match (h.fileNames.findIdx? (· == name)).bind (percentAt? · h.fileNames.length) with
      | some percent => h.progress percent
      | none => h

/-- Handle an event. The notification is the one that the listeners were told. -/
def handle (chronicle : Chronicle) (event : Event) (h : Herald) : Herald × Option Notification :=
  if event.historic then (h.replay event.filename, none)
  else if h.isRunning then
    match h.settings.announcementFor? event.kind with
    | some a => h.announce chronicle a (header event.kind) (some event)
    | none => (h, none)
  else (h, none)

/-- What happens on the hour: the announcement of the play time, if the settings have one, and a new
alarm. -/
def strike (chronicle : Chronicle) (now : Timestamp) (h : Herald) : Herald :=
  if h.isRunning then
    let h := match h.settings.announcementFor? Settings.hourlyKind with
      | some a => (h.announce chronicle a hourHeader none).1
      | none => h
    h.setAlarm now
  else h

/-- The alarm that is remembered goes off. -/
def ring (h : Herald) : Herald :=
  match h.clockwork.remembered with
  | some alarm => { h with clockwork := h.clockwork.goOff alarm }
  | none => h

end Herald

end JournalHerald

import JournalHerald.Dispatch.Run
import JournalHerald.Display.Command
import JournalHerald.Display.Log
import JournalHerald.Display.Notice
import JournalHerald.Herald
import JournalHerald.Journal.Follower
import JournalHerald.Settings.Folder
import JournalHerald.Settings.TokenReference

/-!
# A session

From the start of the program to its end: the settings are read, the history in the journal is replayed, and
then the entries of the present and the commands of the display are taken as they come. What happens inside is
told to the display as notices, in order.

* `Session` is the state while the program runs;
* `Session.begin?` replays the history and starts the herald;
* `Session.follow`, `Session.obey` and `Session.strike` take in new text in the journal files, a command, and
  the full hour;
* `Opening` is all that comes of starting the program, with what it writes to its folder.
-/

namespace JournalHerald

open Display

/-- The state while the program runs. -/
structure Session where
  chronicle : Chronicle
  herald : Herald
  dispatch : Dispatch
  follower : Journal.Follower
  /-- The display wants the program to stop, or has gone away. -/
  stopping : Bool := false

namespace Session

/-- The notice that shows a notification. -/
def noticeOf (s : Session) (n : Notification) : Notice :=
  .notification (n.presentation s.herald.settings.displayDuration)

/-- The presenter prints a notice, and fails if there is no line for it. -/
def plan (s : Session) : Dispatch.Plan := fun n => { fails := !(s.noticeOf n).isWritable }

/-- Pass on what the herald has told its listeners: percentages to the display at once, notifications by
way of the dispatch queue. -/
def flush (s : Session) : Session × List Notice :=
  let percentages := s.herald.progressListeners.flatMap Herald.Listener.told
  let notifications := s.herald.notificationListeners.flatMap Herald.Listener.told
  let dispatch := notifications.foldl (fun d n => d.act (.add n)) s.dispatch
  let dispatch := dispatch.settle s.plan
  let shown := (dispatch.shown.map s.noticeOf).filter Notice.isWritable
  let herald :=
    { s.herald with
      progressListeners := [Herald.Listener.always .accept]
      notificationListeners := [Herald.Listener.always .accept] }
  ({ s with herald, dispatch := { dispatch with shown := [] } },
   percentages.map Notice.progress ++ shown)

/-- Take in an entry of the journal. -/
def takeEntry (historic : Bool) (entry : Fields) (s : Session) : Session × List Notice :=
  let event := Event.ofEntry entry historic (some (Journal.sourceOf entry))
  let chronicle := (s.chronicle.process event).1
  { s with chronicle, herald := (s.herald.handle chronicle event).1 }.flush

/-- Take in entries one after the other. -/
def takeEntries (historic : Bool) (entries : List Fields) (s : Session) : Session × List Notice :=
  entries.foldl
    (fun (s, notices) entry =>
      let (s, more) := s.takeEntry historic entry
      (s, notices ++ more))
    (s, [])

/-- The session before the first entry. -/
def empty (settings : Settings) (files : List Journal.LogFile) (history : Journal.History) : Session where
  chronicle := Chronicle.empty
  herald :=
    { settings
      notificationListeners := [Herald.Listener.always .accept]
      progressListeners := [Herald.Listener.always .accept] : Herald }.setFiles
      ((Journal.journalFiles files).map Journal.LogFile.name)
  dispatch := Dispatch.act {} .launch
  follower := Journal.Follower.ofHistory history

/-- Replay the history, then start the herald. -/
def begin? (settings : Settings) (files : List Journal.LogFile) (now : Timestamp) :
    Except Journal.ReadFault (Session × List Notice) := do
  let history ← Journal.History.load files
  let (s, replayed) := (empty settings files history).takeEntries true history.entries
  let (s, started) := { s with herald := s.herald.start s.chronicle now }.flush
  return (s, replayed ++ started)

/-- Take in what has been written to the journal files. -/
def follow (files : List Journal.LogFile) (s : Session) : Session × List Notice :=
  let follower := s.follower.settle files
  { s with follower := { follower with queue := [] } }.takeEntries false follower.queue

/-- Do what the display wants. -/
def obey (c : Command) (s : Session) : Session × List Notice :=
  match c with
  | .acknowledge => { s with dispatch := s.dispatch.act .acknowledge }.flush
  | .stop => ({ s with stopping := true }, [])

/-- Take in the full hour. -/
def strike (now : Timestamp) (s : Session) : Session × List Notice :=
  { s with herald := (s.herald.ring).strike s.chronicle now }.flush

/-- What is logged at the end of a session. -/
def farewell : LogLine :=
  LogLine.ofValues "info" (.text "SIOUX stopped") []

end Session

/-- What comes of starting the program. -/
structure Opening where
  /-- The folder of the settings with the defaults in it. -/
  folder : Folder
  /-- The token reference, which is written to that folder if the settings can be read. -/
  reference : Option Text
  /-- What is told after the notice that the library is ready. -/
  notices : List Notice
  /-- The session, unless the program ends at once. -/
  session : Option Session

namespace Opening

/-- Start the program. `path` is the path of the folder of the settings. -/
def of (folder : Folder) (path : Text) (files : List Journal.LogFile) (now : Timestamp) : Opening :=
  let (folder, loaded) := folder.load
  match loaded with
  | .error fault =>
    let notices : List Notice :=
      if fault.isReported then [.failure (fault.message path) (fault.problems path)] else []
    { folder, reference := none, notices, session := none }
  | .ok settings =>
    let reference := some (Settings.tokenReference (some settings))
    match Session.begin? settings files now with
    | .ok (s, notices) => { folder, reference, notices, session := some s }
    | .error _ => { folder, reference, notices := [], session := none }

/-- All that is told. The notice that the library is ready comes before anything is read. -/
def told (o : Opening) : List Notice :=
  .ready :: o.notices

/-- The names of what is in the folder of the settings afterwards. -/
def fileNames (o : Opening) : List Text :=
  o.folder.entries.map (·.1) ++ (o.reference.map fun _ => Settings.referenceName).toList

end Opening

/-- The exit code of a program that could not start. -/
def failedCode : Nat := 1

/-- The exit code of a program that was stopped. -/
def stoppedCode : Nat := 0

end JournalHerald

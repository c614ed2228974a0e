import JournalHerald.CommandLine
import JournalHerald.Journal.Location
import JournalHerald.Session
import Std.Time.DateTime.Timestamp

/-!
# The program

Reads and writes files, reads commands from standard input, prints notices, and keeps the time. What any of it
means is decided by `Session`.
-/

namespace JournalHerald.Program

open Display

/-! ## The clock and the display -/

/-- The current moment. -/
def now : IO Timestamp := do
  let clock ← Std.Time.Timestamp.now
  return .ofUnix (clock.toNanosecondsSinceUnixEpoch.val.toNat / 1000)

/-- Print a notice. -/
def tell (notice : Notice) : IO Unit := do
  let out ← IO.getStdout
  out.putStr (Text.string ((notice.line? (← now).universal).getD []))
  out.flush

/-- Print a line of the log. -/
def log (l : LogLine) : IO Unit := do
  let out ← IO.getStdout
  out.putStr (Text.string ((line? (← now).universal (.object l.toFields)).getD []))
  out.flush

/-! ## Files -/

/-- What is found under a name in the current folder. -/
def readEntry? (name : Text) : IO (Option Entry) := do
  let path := (← IO.currentDir) / name.string
  if ← path.isDir then return some .folder
  else if ← path.pathExists then return some (.file (← IO.FS.readBinFile path))
  else return none

/-- Write a file into the current folder, unless a folder has its name. -/
def writeEntry : Text × Entry → IO Unit
  | (name, .file content) => IO.FS.writeBinFile name.string content
  | (_, .folder) => pure ()

/-- What is known of a file without reading it. -/
structure Seen where
  name : String
  /-- The time of the last change. -/
  changed : IO.FS.SystemTime
  size : Nat
  deriving BEq

/-- The time of the last change of one file is not after that of another. -/
def Seen.notAfter (a b : Seen) : Bool :=
  (compare a.changed b.changed).isLE

/-- The files in a folder in the order of their last changes. A folder that cannot be read has none. -/
def look (folder : String) : IO (List Seen) := do
  let path := (← IO.currentDir) / folder
  try
    let mut seen : List Seen := []
    for entry in ← path.readDir do
      if ← entry.path.pathExists then
        let about ← entry.path.metadata
        if about.type matches .file then
          seen := ⟨entry.fileName, about.modified, about.byteSize.toNat⟩ :: seen
    return seen.mergeSort Seen.notAfter
  catch _ => return []

/-- Read the files that are wanted. The others pass as empty. -/
def readFiles (folder : String) (wanted : Text → Bool) (seen : List Seen) : IO (List Journal.LogFile) := do
  let path := (← IO.currentDir) / folder
  seen.mapM fun s => do
    if wanted s.name then return .ofBytes s.name (← IO.FS.readBinFile (path / s.name)).toList
    else return ⟨s.name, [], false⟩

/-! ## The round of the program -/

/-- What the program keeps from one round to the next. -/
structure Round where
  session : Session
  /-- The files of the journal as they were when they were last read. -/
  seen : List Seen := []
  /-- The number of the alarm that is awaited, and the time at which it goes off. -/
  due : Option (Nat × Nat) := none
  /-- The time at which the follower begins anew after a fault. -/
  retry : Option Nat := none
  /-- How many seconds the follower waits after the next fault. -/
  backoff : Nat := 1

/-- Print notices and keep the session that they come from. -/
def Round.keep (r : Round) : Session × List Notice → IO Round
  | (session, notices) => do
    notices.forM tell
    return { r with session }

/-- Pass on what has been said by way of `heard`, and tell whether reading goes on. -/
def hear (heard : IO.Ref (List Command)) (said : List Heard) : IO Bool := do
  let (commands, goesOn) := Command.taken said
  heard.modify (· ++ commands)
  return goesOn

/-- Read commands until there are no more. The end of the input is a command to stop. -/
partial def listen (input : IO.FS.Stream) (heard : IO.Ref (List Command)) : IO Unit := do
  let line ← input.getLine
  if line.isEmpty then heard.modify (· ++ [.stop])
  else if ← hear heard (Command.ofText line) then listen input heard

/-- Do what the display wants. -/
def Round.obey (heard : IO.Ref (List Command)) (r : Round) : IO Round := do
  let commands ← heard.modifyGet fun commands => (commands, [])
  commands.foldlM (fun r command => r.keep (r.session.obey command)) r

/-- Take in what is new in the journal. -/
def Round.follow (folder : String) (r : Round) : IO Round := do
  let seen ← look folder
  if seen == r.seen then return r
  let newest := Journal.newest? (seen.map fun s => ⟨s.name, [], false⟩)
  let opened := r.session.follower.opened.map Journal.Opened.name
  let files ← readFiles folder (fun name => newest == some name || opened == some name) seen
  let r ← { r with seen }.keep (r.session.follow files)
  match r.session.follower.fault with
  | none => return r
  | some _ =>
    let time ← IO.monoMsNow
    return { r with retry := some (time + 1000 * r.backoff), backoff := 2 * r.backoff }

/-- Begin to follow the journal anew once the time has come. -/
def Round.recover (r : Round) : IO Round := do
  match r.retry with
  | some time =>
    if time ≤ (← IO.monoMsNow) then
      let session := { r.session with follower := r.session.follower.restart }
      return { r with session, seen := [], retry := none }
    else return r
  | none => return r

/-- Take in the hour if the alarm goes off. -/
def Round.strike (r : Round) : IO Round := do
  let time ← IO.monoMsNow
  match r.session.herald.clockwork.remembered, r.due with
  | some alarm, some (number, due) =>
    if alarm.number != number then return { r with due := some (alarm.number, time + alarm.milliseconds) }
    else if due ≤ time then r.keep (r.session.strike (← now))
    else return r
  | some alarm, none => return { r with due := some (alarm.number, time + alarm.milliseconds) }
  | none, _ => return { r with due := none }

/-- Go round until the display wants the program to stop. -/
partial def goRound (folder : String) (heard : IO.Ref (List Command)) (r : Round) : IO Unit := do
  let r ← r.obey heard
  if r.session.stopping then
    log Session.farewell
  else
    let r ← r.recover
    let r ← if r.retry.isNone then r.follow folder else pure r
    let r ← r.strike
    IO.sleep 50
    goRound folder heard r

/-- Run with the journal in a folder. -/
def run (folder : String) : IO UInt32 := do
  tell .ready
  let settings : Folder :=
    { settings := ← readEntry? Settings.fileName, pristine := ← readEntry? Settings.pristineName }
  let files ← readFiles folder Journal.isJournalName (← look folder)
  let opening := Opening.of settings (← IO.currentDir).toString files (← now)
  opening.folder.entries.forM writeEntry
  if let some reference := opening.reference then
    IO.FS.writeFile (Text.string Settings.referenceName) reference.string
  opening.notices.forM tell
  match opening.session with
  | none => return failedCode.toUInt32
  | some session =>
    let heard ← IO.mkRef []
    let _ ← IO.asTask (listen (← IO.getStdin) heard) Task.Priority.dedicated
    goRound folder heard { session }
    return stoppedCode.toUInt32

end JournalHerald.Program

/-- Run the program. -/
def main (args : List String) : IO UInt32 := do
  match JournalHerald.CommandLine.ofArguments args with
  | .run journalPath =>
    let home := (← IO.getEnv "HOME").getD ""
    let cwd := (← IO.currentDir).toString
    let folder := JournalHerald.Journal.folder home cwd (journalPath.map JournalHerald.Text.ofString)
    JournalHerald.Program.run folder.string
  | .help =>
    IO.println JournalHerald.CommandLine.helpText
    return 0
  | .refused reason =>
    IO.eprintln JournalHerald.CommandLine.usage
    IO.eprintln ("journal-herald: error: " ++ reason)
    return JournalHerald.CommandLine.refusedCode.toUInt32

import JournalHerald.Journal.History

/-!
# Following the journal

After the start the newest file is followed. It is read from its beginning; the lines that have been read
before are passed over. A line is an entry only once it has its end: until then its parts are put together. At
the end of the file the follower looks whether another file has become the newest, and if so goes on there.

* `Follower` is the state, `Follower.step` does one thing: open a file, fill the buffer from it, take a line
  from the buffer, or look for a newer file;
* `Follower.settle` takes steps until there is nothing left to do;
* `Follower.take?` takes an entry out of the queue that the follower fills.
-/

namespace JournalHerald.Journal

/-- A file that is being followed. -/
structure Opened where
  name : Text
  /-- How many lines of the file were read before it was opened. -/
  skipped : Nat
  /-- How many characters have been read into the buffer. -/
  position : Nat := 0
  /-- What has been read and not yet been cut into lines. -/
  buffer : Text := []
  /-- The parts of a line that has no end yet. -/
  pending : Text := []
  /-- How many lines have been completed. -/
  lineCount : Nat := 0
  /-- The file has no more than what has been read. -/
  atEnd : Bool := false
  deriving DecidableEq, Repr

/-- What has been read of the journal, and what is being read. -/
structure Follower where
  /-- The number of lines read of each file. -/
  linesRead : List (Text × Nat)
  opened : Option Opened := none
  /-- The entries that wait to be taken. -/
  queue : List Fields := []
  /-- Why the follower cannot go on. -/
  fault : Option ReadFault := none
  deriving Repr

namespace Follower

/-- The follower of a journal whose history has been read. -/
def ofHistory (history : History) : Follower :=
  { linesRead := history.linesRead }

/-- How many lines of a file have been read. -/
def linesOf (f : Follower) (name : Text) : Nat :=
  ((f.linesRead.find? fun n => n.1 == name).map (·.2)).getD 0

/-- Note how many lines of a file have been read. -/
def note (name : Text) (count : Nat) (counts : List (Text × Nat)) : List (Text × Nat) :=
  counts.filter (fun n => n.1 != name) ++ [(name, count)]

/-- Open a file at its beginning. -/
def openFile (name : Text) (f : Follower) : Follower :=
  { f with opened := some { name, skipped := f.linesOf name } }

/-- Read the rest of a file into the buffer. -/
def fill (text : Text) (o : Opened) : Opened :=
  let rest := text.drop o.position
  { o with buffer := rest, position := o.position + rest.length, atEnd := rest.isEmpty }

/-- Take in a line that has its end. -/
def complete (line : Text) (o : Opened) (f : Follower) : Follower :=
  let count := o.lineCount + 1
  let f := { f with opened := some { o with pending := [], lineCount := count } }
  if count ≤ o.skipped then f
  else
    let f := { f with linesRead := note o.name count f.linesRead }
    match entryOf o.name count line with
    | .ok entry => { f with queue := f.queue ++ entry.toList }
    | .error fault => { f with opened := none, fault := some fault }

/-- Take the first line, or part of a line, out of the buffer. -/
def takeLine (o : Opened) (f : Follower) : Follower :=
  let (line, rest) := Text.nextLine o.buffer
  let o := { o with buffer := rest, pending := o.pending ++ line }
  if Text.isWhole o.pending then f.complete o.pending o
  else { f with opened := some o }

/-- Do one thing. -/
def step (files : List LogFile) (f : Follower) : Follower :=
  match f.fault, f.opened with
  | some _, _ => f
  | none, none =>
    match newest? files with
    | some name => f.openFile name
    | none => f
  | none, some o =>
    if o.atEnd then
      if newest? files = some o.name then { f with opened := some { o with atEnd := false } }
      else { f with opened := none }
    else if o.buffer.isEmpty then
      match find? files o.name with
      | some file =>
        if file.broken ∧ file.text.length ≤ o.position then
          { f with opened := none, fault := some .undecodable }
        else { f with opened := some (fill file.text o) }
      | none => { f with opened := some (fill [] o) }
    else f.takeLine o

/-- Begin anew after a fault. -/
def restart (f : Follower) : Follower :=
  { f with opened := none, fault := none }

/-- The file has grown since it was last read. -/
def hasMore (files : List LogFile) (o : Opened) : Bool :=
  match find? files o.name with
  | some file => file.broken || o.position < file.text.length
  | none => false

/-- Nothing is left to do while the files stay as they are. -/
def isSettled (files : List LogFile) (f : Follower) : Bool :=
  match f.fault, f.opened with
  | some _, _ => true
  | none, none => (newest? files).isNone
  | none, some o =>
    o.buffer.isEmpty && o.atEnd && newest? files == some o.name && !hasMore files o

/-- Take at most so many steps, until there is nothing left to do. -/
def settleWithin (files : List LogFile) : Nat → Follower → Follower
  | 0, f => f
  | n + 1, f => if f.isSettled files then f else settleWithin files n (f.step files)

/-- A bound for the steps that are needed: every character of a file is read and taken once. -/
def stepBound (files : List LogFile) (f : Follower) : Nat :=
  let sizes := files.map fun file => file.text.length
  let buffered := (f.opened.map fun o => o.buffer.length).getD 0
  sizes.foldr (· + ·) buffered + 10

/-- Take steps until there is nothing left to do. -/
def settle (files : List LogFile) (f : Follower) : Follower :=
  settleWithin files (stepBound files f) f

/-- Take the first entry out of the queue. -/
def take? (f : Follower) : Option (Fields × Follower) :=
  match f.queue with
  | [] => none
  | entry :: rest => some (entry, { f with queue := rest })

/-- Take so many entries, none where there is no more. -/
def takeMany (f : Follower) : Nat → List (Option Fields) × Follower
  | 0 => ([], f)
  | n + 1 =>
    match f.take? with
    | some (entry, f) => let (rest, f) := f.takeMany n; (some entry :: rest, f)
    | none => let (rest, f) := f.takeMany n; (none :: rest, f)

end Follower

end JournalHerald.Journal

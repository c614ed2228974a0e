import JournalHerald.Journal.LogFile
import JournalHerald.Text.Lines

/-!
# The history in the journal

What the journal held when the program started: the entries in the whole lines of all files, and how many
lines of each file have been read. A last line without an end is still being written and is left alone.

* `History.load` reads the files.
-/

namespace JournalHerald.Journal

/-- What has been read of the journal at the start. -/
structure History where
  entries : List Fields := []
  /-- The number of lines read of each file. -/
  linesRead : List (Text × Nat) := []
  deriving Repr, Inhabited

namespace History

/-- The lines of a text that have their ends. -/
def wholeLines (text : Text) : List Text :=
  (Text.lines text).takeWhile Text.isWhole

/-- Read one more file, as far as it can be read. -/
def loadFile (history : History) (file : LogFile) : Except ReadFault History := do
  let lines := wholeLines file.text
  let entries ← entriesOf file.name 1 lines
  if file.broken then .error .undecodable
  else return ⟨history.entries ++ entries, history.linesRead ++ [(file.name, lines.length)]⟩

/-- Read the journal files among files that are given in the order of their last changes. -/
def load (files : List LogFile) : Except ReadFault History :=
  (journalFiles files).foldlM loadFile {}

end History

end JournalHerald.Journal

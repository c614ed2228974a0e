import JournalHerald.Text.Digits

/-!
# Entry ids

An entry of the journal is identified by the name of its file and the number of its line, which has at least
six digits: `Journal.01.log.000042`. The last dot separates the two.

* `baseName` is the name of a file without its folders, whichever slash separates them;
* `entryId` is the id of an entry, `sourceName` the name of the file in an id.
-/

namespace JournalHerald.Journal

/-- A slash of either kind. -/
def isSlash (c : CodePoint) : Bool :=
  c == '/' || c == '\\'

/-- What follows the last slash of a path. -/
def baseName (path : Text) : Text :=
  (path.reverse.takeWhile (!isSlash ·)).reverse

/-- The id of the entry in a line of a file. -/
def entryId (path : Text) (line : Int) : Text :=
  baseName path ++ "." ++ Text.padded 6 line

/-- What precedes the last dot of an id, or the whole id if it has none. -/
def sourceName (id : Text) : Text :=
  match id.reverse.dropWhile (· != .char '.') with
  | [] => id
  | _ :: before => before.reverse

end JournalHerald.Journal

import JournalHerald.Text

/-!
# Where the journal is

The folder of the journal files can be given by its path, which is made absolute and simplified: empty steps
and steps to the same folder are dropped, and a step to the parent takes back the step before it. Without a
path it is the folder in which the game keeps its journal.

* `simplified` simplifies an absolute path, `absolute` makes a path absolute;
* `folder` is the folder of the journal files.
-/

namespace JournalHerald.Journal

/-- Take one step of a path, with the steps so far in reverse. There is no parent above the root. -/
def walk (steps : List Text) (step : Text) : List Text :=
  if step = "" ∨ step = "." then steps
  else if step = ".." then steps.tail
  else step :: steps

/-- The slashes at the root of an absolute path. Two of them have a meaning of their own, more have not. -/
def root (path : Text) : Text :=
  if List.isPrefixOf "//" path ∧ ¬ List.isPrefixOf "///" path then "//" else "/"

/-- An absolute path without needless steps. -/
def simplified (path : Text) : Text :=
  let steps := (path.splitOn (.char '/')).foldl walk []
  root path ++ Text.joinWith "/" steps.reverse

/-- A path below a folder. -/
def below (folder path : Text) : Text :=
  if folder.getLast? = some (.char '/') then folder ++ path else folder ++ "/" ++ path

/-- A path as seen from the current folder. -/
def absolute (currentFolder path : Text) : Text :=
  if path.head? = some (.char '/') then simplified path else simplified (below currentFolder path)

/-- Where the game keeps its journal below the home folder of the user. -/
def usualFolder (home : Text) : Text :=
  home ++ "/Saved Games/Frontier Developments/Elite Dangerous"

/-- The folder of the journal files. -/
def folder (home currentFolder : Text) (path : Option Text) : Text :=
  match path with
  | none | some [] => usualFolder home
  | some path => absolute currentFolder path

end JournalHerald.Journal

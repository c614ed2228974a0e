import JournalHerald.Json.Reader
import JournalHerald.Json.Writer
import JournalHerald.Settings.Defaults
import JournalHerald.Text.Lines
import JournalHerald.Value.Agreement

/-!
# The folder of the settings

The settings are kept in a file that belongs to the user. Before it is read, a pristine copy of the defaults
is written beside it, and the file itself is created from the defaults if it is not there.

* `Folder` is what the folder holds, `Folder.prepare` the writing of the defaults;
* `Settings.ofEntry?` reads settings from an entry of the folder;
* `Folder.load` prepares the folder and reads the settings from it;
* `LoadFault` says why there are none, `LoadFault.problems` in lines for the user.
-/

namespace JournalHerald

/-- What is found under a name in a folder. -/
inductive Entry where
  | file (content : ByteArray)
  | folder

/-- Why settings cannot be read. -/
inductive LoadFault where
  /-- There is a folder in place of the copy of the defaults, which cannot be written. -/
  | unwritable
  /-- There is a folder in place of the file. -/
  | isFolder
  /-- The file is not encoded in UTF-8. -/
  | undecodable
  /-- The text in the file is not JSON. -/
  | malformed (text : Text) (error : Json.ReadError)
  /-- The object in the file has problems. -/
  | invalid (problems : List Schema.Problem)
  deriving Repr

namespace LoadFault

/-- The user is told about the fault. The others end the program without a message. -/
def isReported : LoadFault → Bool
  | .unwritable | .undecodable => false
  | .malformed _ error => error.fault.isSyntax
  | _ => true

end LoadFault

namespace Settings

/-- The name of the file that belongs to the user. -/
def fileName : Text := "SiouxData.json"

/-- The name of the pristine copy of the defaults. -/
def pristineName : Text := "SiouxData.Default.json"

/-- The name of a file in a folder, with the path of the folder. -/
def pathOf (folder name : Text) : Text :=
  if folder = "" ∨ folder.getLast? = some (.char '/') then folder ++ name
  else folder ++ "/" ++ name

/-- The text of the default settings. -/
def defaultText : Text :=
  (Json.pretty? defaults).getD []

/-- The settings in the text of a file. -/
def ofText? (text : Text) : Except LoadFault Settings :=
  match Json.parse text with
  | .error error => .error (.malformed text error)
  | .ok v =>
    match check v with
    | .ok settings => .ok settings
    | .error problems => .error (.invalid problems)

/-- The settings in the content of a file. -/
def ofBytes? (content : ByteArray) : Except LoadFault Settings :=
  match String.fromUTF8? content with
  | some s => ofText? (Text.joinLineEnds s)
  | none => .error .undecodable

/-- The settings in an entry of a folder. -/
def ofEntry? : Entry → Except LoadFault Settings
  | .file content => ofBytes? content
  | .folder => .error .isFolder

/-- The content of a file agrees with the default settings. -/
def isDefault (content : ByteArray) : Bool :=
  match String.fromUTF8? content with
  | some s =>
    match Json.parse (Text.joinLineEnds s) with
    | .ok v => v.agrees defaults
    | .error _ => false
  | none => false

end Settings

namespace LoadFault

/-- The line for a folder in place of a file, given the path of the folder that it is in. -/
def folderLine (folder name : Text) : Text :=
  "[Errno 21] Is a directory: " ++ Text.quoted (Settings.pathOf folder name)

/-- The problems in lines for the user, given the path of the folder. -/
def problems (folder : Text) : LoadFault → List Text
  | .unwritable => [folderLine folder Settings.pristineName]
  | .isFolder => [folderLine folder Settings.fileName]
  | .undecodable => ["The file is not encoded in UTF-8"]
  | .malformed text error => [error.message text]
  | .invalid problems => problems.map Schema.Problem.text

/-- The problems below a heading. -/
def message (folder : Text) (fault : LoadFault) : Text :=
  Text.joinWith "\n" (("Failed to load SiouxData at " ++ folder) :: fault.problems folder)

end LoadFault

/-- What the folder of the settings holds. -/
structure Folder where
  /-- The file that belongs to the user. -/
  settings : Option Entry := none
  /-- The copy of the defaults. -/
  pristine : Option Entry := none

namespace Folder

/-- The default settings as a file. -/
def defaultEntry : Entry :=
  .file (Text.string Settings.defaultText).toUTF8

/-- What the settings are read from: the file of the user, or else the defaults. -/
def source (folder : Folder) : Entry :=
  folder.settings.getD defaultEntry

/-- Write the copy of the defaults, and the file of the user if there is none. -/
def prepare (folder : Folder) : Folder :=
  { settings := some folder.source, pristine := some defaultEntry }

/-- Prepare the folder and read the settings. Nothing is done if the copy of the defaults cannot be
written. -/
def load (folder : Folder) : Folder × Except LoadFault Settings :=
  match folder.pristine with
  | some .folder => (folder, .error .unwritable)
  | _ => (folder.prepare, Settings.ofEntry? folder.source)

/-- The entries of the folder by name. -/
def entries (folder : Folder) : List (Text × Entry) :=
  (folder.pristine.map fun e => (Settings.pristineName, e)).toList ++
    (folder.settings.map fun e => (Settings.fileName, e)).toList

end Folder

end JournalHerald

import JournalHerald.Json.Reader
import JournalHerald.Journal.EntryId
import JournalHerald.Text.Utf8

/-!
# Journal files

The game keeps its journal in files of one folder. A file grows line by line while the game is on, and a new
file is begun from time to time. A line is an entry if it is a JSON object; it then gets an id. Lines that are
no JSON at all are passed over.

* `StoredFile` is a file with its bytes, and `store` writes into one; what has been stored of a character may
  be only a part of it, until the rest is written;
* `LogFile` is what can be read of a file, `journalFiles` picks those of the journal, `newest?` the one that was
  written last;
* `entryOf` reads a line, `entriesOf` the lines of a file;
* `ReadFault` says why a line or a file cannot be read.
-/

namespace JournalHerald.Journal

/-- A file in the folder of the journal, as it can be read at a time. -/
structure LogFile where
  name : Text
  /-- The text of the file, as far as it can be read. -/
  text : Text
  /-- The file goes on behind the text with something that is not encoded in UTF-8. -/
  broken : Bool := false
  deriving DecidableEq, Repr

/-- How many bytes of a file are read at a time. -/
def blockSize : Nat := 8192

/-- The file with a name and a content. What can be read of it ends with the last block in front of bytes that
are not encoded in UTF-8, and there a carriage return does not end a line, because nothing tells what would
follow it. -/
def LogFile.ofBytes (name : Text) (content : List UInt8) : LogFile :=
  let reading := Utf8.readBlocks .between (Utf8.blocks blockSize content)
  if reading.broken ∧ reading.text.getLast? = some (.char '\r') then ⟨name, reading.text.dropLast, true⟩
  else ⟨name, reading.text, reading.broken⟩

/-- A file with the bytes that have been written. -/
structure StoredFile where
  name : Text
  content : List UInt8
  deriving DecidableEq, Repr

/-- What can be read of a file. -/
def StoredFile.log (f : StoredFile) : LogFile :=
  .ofBytes f.name f.content

/-- Write bytes at the end of a file, which becomes the one changed last. -/
def store (name : Text) (bytes : List UInt8) (files : List StoredFile) : List StoredFile :=
  let content := ((files.find? fun f => f.name == name).map StoredFile.content).getD []
  files.filter (fun f => f.name != name) ++ [⟨name, content ++ bytes⟩]

/-- The name is that of a journal file. -/
def isJournalName (name : Text) : Bool :=
  List.isPrefixOf "Journal." name

/-- The journal files in a folder, given the files in the order of their last changes. -/
def journalFiles (files : List LogFile) : List LogFile :=
  files.filter fun f => isJournalName f.name

/-- The name of the journal file that was changed last. -/
def newest? (files : List LogFile) : Option Text :=
  (journalFiles files).getLast?.map LogFile.name

/-- The file with a name. -/
def find? (files : List LogFile) (name : Text) : Option LogFile :=
  files.find? fun f => f.name == name

/-- Write text at the end of a file that can be read as a whole, which becomes the one changed last. -/
def append (name text : Text) (files : List LogFile) : List LogFile :=
  let written : LogFile := match find? files name with
    | some f => if f.broken then f else { f with text := f.text ++ text }
    | none => ⟨name, text, false⟩
  files.filter (fun f => f.name != name) ++ [written]

/-- Why a file of the journal cannot be read. -/
inductive ReadFault where
  /-- A file is not encoded in UTF-8 throughout. -/
  | undecodable
  /-- A line is JSON but no object. -/
  | notObject
  /-- A line is beyond the limits for JSON texts. -/
  | oversized (error : Json.ReadError)
  deriving DecidableEq, Repr

/-- The field that holds the id of an entry. -/
def idField : Text := "id"

/-- The entry in a line with a number, if the line is an entry. -/
def entryOf (file : Text) (number : Nat) (line : Text) : Except ReadFault (Option Fields) :=
  match Json.parse line with
  | .ok (.object fields) => .ok (some (Fields.set fields idField (.text (entryId file number))))
  | .ok _ => .error .notObject
  | .error error => if error.fault.isSyntax then .ok none else .error (.oversized error)

/-- The entries in lines, of which the first has the given number. -/
def entriesOf (file : Text) : Nat → List Text → Except ReadFault (List Fields)
  | _, [] => .ok []
  | number, line :: rest => do
    let entry ← entryOf file number line
    let entries ← entriesOf file (number + 1) rest
    return entry.toList ++ entries

/-- The name of the file that an entry comes from. -/
def sourceOf (entry : Fields) : Text :=
  match entry.get? idField with
  | some (.text id) => sourceName id
  | _ => []

end JournalHerald.Journal

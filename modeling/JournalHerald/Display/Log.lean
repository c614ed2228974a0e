import JournalHerald.Text.Blank
import JournalHerald.Text.Lowercase
import JournalHerald.Value.Text

/-!
# Log lines

The library logs what it does, on lines that the display can tell from notices by their type.

* `LogLine` is a line, `LogLine.toFields` its fields;
* `LogLine.ofValues` is the line for values that are shown one after the other;
* `Crash` is an unexpected failure, `Crash.logLine?` the line that reports it.
-/

namespace JournalHerald.Display

/-- A line in the log. -/
structure LogLine where
  level : Text
  message : Text
  deriving DecidableEq, Repr

/-- The name of a level as it is written, given the name that was asked for. Unknown levels pass as
information. -/
def levelName (asked : Text) : Text :=
  match (Text.lowercase asked).string? with
  | some "debug" => "DEBUG"
  | some "warn" => "WARNING"
  | some "error" => "ERROR"
  | _ => "INFO"

namespace LogLine

/-- The line for a message and further values, with spaces between them and none around them. -/
def ofValues (level : Text) (message : Value) (values : List Value) : LogLine :=
  ⟨levelName level, Text.trim (Text.joinWith " " ((message :: values).map Value.display))⟩

/-- The fields of a line apart from its time stamp. -/
def toFields (l : LogLine) : Fields :=
  [("type", .text "log"), ("prefix", .text l.level), ("message", .text l.message)]

end LogLine

/-- A failure that nobody expected. -/
structure Crash where
  kind : Text
  text : Text
  deriving DecidableEq, Repr

namespace Crash

/-- The user has interrupted the program, which is no failure. -/
def isInterrupt (c : Crash) : Bool := c.kind == "KeyboardInterrupt"

/-- The text of a failure. That of a missing key is quoted. -/
def shownText (c : Crash) : Text :=
  if c.kind = "KeyError" then Text.quoted c.text else c.text

/-- The line that reports a failure. An interrupt is not reported. -/
def logLine? (c : Crash) : Option LogLine :=
  if c.isInterrupt then none
  else
    let message := "Uncaught exception <class '" ++ c.kind ++ "'> " ++ c.shownText ++ " None"
    some ⟨"error", Text.trim message⟩

end Crash

end JournalHerald.Display

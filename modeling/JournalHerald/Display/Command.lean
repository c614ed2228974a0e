import JournalHerald.Json.Reader
import JournalHerald.Text.Blank
import JournalHerald.Text.Lines

/-!
# Commands from the display

The display sends one JSON object a line: it acknowledges that a notification has closed, or wants the program
to stop. Blank lines and lines that are no JSON are passed over, and so are objects of any other type. A line
that is JSON but no object, or is beyond the limits of JSON texts, ends the reading of commands.

* `Command.ofLine` is the command in a line, `Command.ofText` those in several lines;
* `Command.taken` are the commands up to the first one to stop, and `Command.ofLines` those in lines that
  come to an end.
-/

namespace JournalHerald.Display

/-- What the display wants. -/
inductive Command where
  | acknowledge
  | stop
  deriving DecidableEq, Repr

/-- What comes of a line. -/
inductive Heard where
  | command (c : Command)
  /-- The line is passed over. -/
  | nothing
  /-- The line ends the reading. -/
  | confused
  deriving DecidableEq, Repr

namespace Command

/-- The command in an object. -/
def ofFields (fields : Fields) : Heard :=
  match (fields.get? "type").bind Value.text? with
  | some type =>
    if type = "acknowledge" then .command .acknowledge
    else if type = "stop" then .command .stop
    else .nothing
  | none => .nothing

/-- What a line says. -/
def ofLine (line : Text) : Heard :=
  let text := Text.trim line
  if text = "" then .nothing
  else
    match Json.parse text with
    | .ok (.object fields) => ofFields fields
    | .ok _ => .confused
    | .error error => if error.fault.isSyntax then .nothing else .confused

/-- What is said in a text of several lines. -/
def ofText (text : Text) : List Heard :=
  (Text.lines text).map ofLine

/-- The commands in what has been heard, up to the first one to stop, and whether the reading goes on. -/
def taken : List Heard → List Command × Bool
  | [] => ([], true)
  | .command .acknowledge :: rest =>
    let (commands, goesOn) := taken rest
    (.acknowledge :: commands, goesOn)
  | .command .stop :: _ => ([.stop], false)
  | .nothing :: rest => taken rest
  | .confused :: _ => ([], false)

/-- The commands in lines, up to the first one to stop. The end of the lines is one, too, unless the
reading has ended before. -/
def ofLines (lines : List Text) : List Command :=
  let (commands, goesOn) := taken (lines.map ofLine)
  if goesOn then commands ++ [.stop] else commands

end Command

end JournalHerald.Display

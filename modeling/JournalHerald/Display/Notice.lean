import JournalHerald.Json.Writer
import JournalHerald.Notification

/-!
# Notices to the display

The display is a program of its own, which reads one JSON object a line. A line tells that the library is
ready, how far the replay of the journal is, what to show, or what has gone wrong. Every line but the first
has a time stamp.

* `Notice` is what can be told, `Notice.toValue` the object for it;
* `line?` is the line for any value: an object gets the time stamp unless it already has one.
-/

namespace JournalHerald.Display

/-- Something to tell the display. -/
inductive Notice where
  /-- The library is about to read the settings and the journal. -/
  | ready
  | notification (p : Presentation)
  | progress (percent : Int)
  | failure (message : Text) (errors : List Text)
  deriving DecidableEq, Repr

/-- A piece of a message as an object. -/
def partValue (p : Part) : Value :=
  .object [("text", .text p.text), ("style", .text p.style.label), ("color", .text p.style.color)]

/-- A notice as an object. -/
def Notice.toValue : Notice → Value
  | .ready => .object [("type", .text "ready")]
  | .notification p =>
    .object
      [("type", .text "notification"), ("header", .text p.header),
       ("parts", .list (p.parts.map partValue)), ("display_seconds", .int p.displaySeconds),
       ("duration_seconds", .int p.durationSeconds), ("close_seconds", .int p.closeSeconds)]
  | .progress percent => .object [("type", .text "load_progress"), ("percent", .int percent)]
  | .failure message errors =>
    .object
      [("type", .text "error"), ("message", .text message), ("errors", .list (errors.map Value.text))]

/-- The field for the time stamp. -/
def stampField : Text := "timestamp"

/-- The texts that a list holds, and only those, contain the name of the time stamp. -/
def isStampText : Value → Bool
  | .text s => s == stampField
  | _ => false

/-- The name of the time stamp is part of a text. -/
def mentionsStamp : Text → Bool
  | [] => false
  | c :: rest => List.isPrefixOf stampField (c :: rest) || mentionsStamp rest

/-- The value with a time stamp. A list or a text that mentions the time stamp passes as it is, other
values cannot take one. -/
def stamped? (now : Text) : Value → Option Value
  | .object fields =>
    if (Fields.get? fields stampField).isSome then some (.object fields)
    else some (.object (fields ++ [(stampField, .text now)]))
  | .list items => if items.any isStampText then some (.list items) else none
  | .text t => if mentionsStamp t then some (.text t) else none
  | _ => none

/-- The line for a value, with its end. There is none for a value that cannot take a time stamp or has no JSON
form. -/
def line? (now : Text) (v : Value) : Option Text := do
  let stamped ← stamped? now v.plain
  let text ← Json.write? stamped
  return text ++ "\n"

/-- The line for a notice, unless a number in it is too long to be written. Only the first notice has no time
stamp. -/
def Notice.line? (now : Text) : Notice → Option Text
  | .ready => (Json.write? Notice.ready.toValue).map (· ++ Text.ofString "\n")
  | notice => Display.line? now notice.toValue

/-- There is a line for a notice. -/
def Notice.isWritable (notice : Notice) : Bool :=
  (notice.line? []).isSome

end JournalHerald.Display

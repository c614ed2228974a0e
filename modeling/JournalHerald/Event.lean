import JournalHerald.Value.Text

/-!
# Events

A journal entry as the rest of the library sees it. The kind of an event and its time stamp are the texts of
two of its fields; every field can be looked up in any letter case.

* `Event.ofEntry` builds an event from a journal entry, in which the fields that name ships and bodies are
  replaced by members of the catalogues where those are known;
* `Event.kind`, `Event.timestamp` and `Event.get` look into an event.
-/

namespace JournalHerald

/-- A journal entry in the course of the game. -/
structure Event where
  content : Fields
  /-- The entry was written before the program started. -/
  historic : Bool := false
  /-- The name of the journal file that the entry comes from. -/
  filename : Option Text := none
  deriving Repr, Inhabited

namespace Value

/-- A ship in place of its identifier; other values are left alone. -/
def toShip : Value → Value
  | .text s => ((ShipType.ofIdentifier? s).map Value.ship).getD (.text s)
  | v => v

/-- A type of body in place of its identifier; other values are left alone. -/
def toBody : Value → Value
  | .text s => ((BodyType.ofIdentifier? s).map Value.body).getD (.text s)
  | v => v

/-- A style in place of its colour; other values are left alone. -/
def toStyle : Value → Value
  | .text s => ((Style.ofColor? s).map Value.style).getD (.text s)
  | v => v

/-- The value of a field that bears a given name, with catalogue members for ships and bodies. -/
def understood (name : Text) (v : Value) : Value :=
  let key := Text.lowercase name
  if key = "ship" ∨ key = "shiptype" then v.toShip
  else if key = "bodytype" then v.toBody
  else v

end Value

/-- The fields with catalogue members for ships and bodies. -/
def Fields.understood (fields : Fields) : Fields :=
  fields.map fun f => (f.1, f.2.understood f.1)

namespace Event

/-- The event that a journal entry tells of. -/
def ofEntry (entry : Fields) (historic : Bool) (filename : Option Text) : Event :=
  { content := Fields.understood entry, historic, filename }

/-- The kind of an event, which may be empty. -/
def kind (e : Event) : Text :=
  (e.content.getD "event" (.text "")).display

/-- The time stamp of an event, which may be empty. -/
def timestamp (e : Event) : Text :=
  (e.content.getD "timestamp" (.text "")).display

/-- The value of a field, whatever its letter case, or null. -/
def get (e : Event) (name : Text) : Value :=
  (e.content.find? name).getD .null

end Event

end JournalHerald

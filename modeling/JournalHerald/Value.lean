import JournalHerald.Catalog.ShipType
import JournalHerald.Catalog.BodyType
import JournalHerald.Catalog.Style
import JournalHerald.Time.Timestamp

/-!
# Values

What a field of a journal entry, of the world state or of a settings file can hold: the values of JSON,
with the fields of an object in order, and the values that replace some of them once a field is understood
(ships, bodies, styles, durations, moments, pieces of a message).

* `Value` is the type, `Fields` the ordered fields of an object;
* `Fields.get?` and `Fields.set` look a field up by its exact name and replace or append it;
* `Fields.find?` looks a field up in any letter case, the first match wins;
* `Value.isTruthy` tells the empty values from the others, `Value.equalsInt` compares with a number.
-/

namespace JournalHerald

/-- A piece of a message: a text in a style. -/
structure Part where
  text : Text
  style : Style
  deriving DecidableEq, Repr, Inhabited

/-- A dynamic value. -/
inductive Value where
  | null
  | bool (b : Bool)
  | int (i : Int)
  | float (x : Double)
  | text (s : Text)
  | list (items : List Value)
  | object (fields : List (Text × Value))
  | ship (s : ShipType)
  | body (b : BodyType)
  | style (s : Style)
  | duration (d : Duration)
  /-- A date with a time of day. -/
  | moment (t : Timestamp)
  /-- A date alone. -/
  | date (t : Timestamp)
  | part (p : Part)
  deriving Repr, Inhabited

/-- The fields of an object, in order. -/
abbrev Fields := List (Text × Value)

namespace Fields

/-- The value of the field with exactly this name. -/
def get? (fields : Fields) (name : Text) : Option Value :=
  (fields.find? fun f => f.1 == name).map (·.2)

/-- The value of the field with exactly this name, or else `default`. -/
def getD (fields : Fields) (name : Text) (default : Value) : Value :=
  (fields.get? name).getD default

/-- The fields with `name` set to `value`, in its old place if it is there and at the end if not. -/
def set (fields : Fields) (name : Text) (value : Value) : Fields :=
  if fields.any fun f => f.1 == name then
    fields.map fun f => if f.1 == name then (name, value) else f
  else fields ++ [(name, value)]

/-- The value of the first field whose name is `name` in some letter case. -/
def find? (fields : Fields) (name : Text) : Option Value :=
  let wanted := Text.lowercase name
  (List.find? (fun f => Text.lowercase f.1 == wanted) fields).map (·.2)

end Fields

namespace Value

/-- The value is not one of the empty ones: null, false, a zero, or a text, list or object without
content. -/
def isTruthy : Value → Bool
  | .null => false
  | .bool b => b
  | .int i => i != 0
  | .float x => !x.isZero
  | .text s => s != ""
  | .list items => !items.isEmpty
  | .object fields => !fields.isEmpty
  | .duration d => d.microseconds != 0
  | _ => true

/-- The value is a number equal to `i`, where the truth values count as one and zero. -/
def equalsInt (i : Int) : Value → Bool
  | .int j => i == j
  | .bool b => i == (if b then 1 else 0)
  | .float x => x.equalsInt i
  | _ => false

/-- The whole number that a number or a truth value stands for. -/
def int? : Value → Option Int
  | .int i => some i
  | .bool b => some (if b then 1 else 0)
  | _ => none

/-- The content of a text. -/
def text? : Value → Option Text
  | .text s => some s
  | _ => none

/-- The text that a value stands for: its content, or what a member of a catalogue is identified by. -/
def spelled? : Value → Option Text
  | .text s => some s
  | .ship s => some s.identifier
  | .body b => some b.identifier
  | .style s => some s.color
  | _ => none

/-- A text or null. -/
def ofText? : Option Text → Value
  | some s => .text s
  | none => .null

end Value

end JournalHerald

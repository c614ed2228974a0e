import JournalHerald.Event
import JournalHerald.World
import JournalHerald.Text.Blank

/-!
# Criteria of a count

A count of past events can be narrowed by the kind of event, the commander and the place, body and ship at
the time. A filter tells the value wanted for each of these attributes, and a criterion is one that it does
want; attributes without a criterion match anything.

* `Attribute` lists the attributes, `Attribute.dimensions` those that a message narrows by showing them;
* `Filter.criteria` are the criteria that a filter sets;
* `Filter.forMessage` is the filter of the count that a message shows.
-/

namespace JournalHerald

/-- What a past event can be counted by. -/
inductive Attribute where
  | event | commander | starSystem | stationName | body | bodyType | ship
  deriving DecidableEq, Repr

namespace Attribute

/-- The name of an attribute, which is also the name of a field. -/
def name : Attribute → Text
  | .event => "Event"
  | .commander => "Commander"
  | .starSystem => "StarSystem"
  | .stationName => "StationName"
  | .body => "Body"
  | .bodyType => "BodyType"
  | .ship => "Ship"

/-- Every attribute, in the order of a row of the statistics. -/
def all : List Attribute :=
  [.event, .commander, .starSystem, .stationName, .body, .bodyType, .ship]

/-- The attributes that a message narrows a count by when it shows them. -/
def dimensions : List Attribute :=
  [.starSystem, .stationName, .body, .bodyType, .ship]

/-- The attribute with exactly this name. -/
def ofName? (s : Text) : Option Attribute :=
  all.find? fun a => a.name == s

end Attribute

/-- The wanted values of some attributes. -/
abbrev Criteria := List (Attribute × Value)

/-- The wanted value of every attribute, or null where any value will do. -/
abbrev Filter := Attribute → Value

namespace Value

/-- The value is null. -/
def isNull : Value → Bool
  | .null => true
  | _ => false

/-- The value is neither null nor a blank text. -/
def isPresent : Value → Bool
  | .null => false
  | .text s => !Text.isBlankText s
  | _ => true

end Value

namespace Filter

/-- The criteria that a filter sets, in the order of the attributes. -/
def criteria (filter : Filter) : Criteria :=
  (Attribute.all.map fun a => (a, filter a)).filter fun c => !c.2.isNull

/-- The value that an event has for a field, or else the world. -/
def effective (event : Event) (world : World) (name : Text) : Value :=
  let own := event.get name
  if own.isPresent then own else world.get name

/-- The value that a message wants for a dimension: the one known, if the message shows the dimension. -/
def dimension (names : List Text) (event : Event) (world : World) (a : Attribute) : Value :=
  if (names.map Text.lowercase).contains (Text.lowercase a.name) then
    let value := effective event world a.name
    if value.isPresent then value else .null
  else .null

/-- The filter of the count that a message shows: the kind of its event, the current commander if
asked for, and every dimension that the message itself names. -/
def forMessage (names : List Text) (event : Event) (world : World) (filterOnCommander : Bool) : Filter
  | .event => .text event.kind
  | .commander => if filterOnCommander then .ofText? world.commander else .null
  | a => dimension names event world a

end Filter

namespace Criteria

/-- The criteria of the count that a message shows. -/
def forMessage (names : List Text) (event : Event) (world : World) (filterOnCommander : Bool) :
    Criteria :=
  (Filter.forMessage names event world filterOnCommander).criteria

/-- The criteria as an object. -/
def toFields (criteria : Criteria) : Fields :=
  criteria.map fun c => (c.1.name, c.2)

end Criteria

end JournalHerald

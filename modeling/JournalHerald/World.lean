import JournalHerald.Schema.Check

/-!
# The state of the world

Where the commander is and what they fly, as far as it is known.

* `World` is the state, `World.get?` looks a field of it up in any letter case;
* `World.check` builds a state from unchecked values.
-/

namespace JournalHerald

/-- A member of a catalogue, or an identifier that the catalogue lacks. -/
inductive Listed (α : Type) where
  | known (member : α)
  | other (identifier : Text)
  deriving DecidableEq, Repr

/-- Where the commander is and what they fly. -/
structure World where
  commander : Option Text := none
  ship : Option (Listed ShipType) := none
  starSystem : Option Text := none
  stationName : Option Text := none
  body : Option Text := none
  bodyType : Option (Listed BodyType) := none
  deriving DecidableEq, Repr, Inhabited

namespace World

/-- A ship as a value. -/
def shipValue : Option (Listed ShipType) → Value
  | none => .null
  | some (.known s) => .ship s
  | some (.other s) => .text s

/-- A type of body as a value. -/
def bodyValue : Option (Listed BodyType) → Value
  | none => .null
  | some (.known b) => .body b
  | some (.other s) => .text s

/-- The state as an object. -/
def fields (w : World) : Fields :=
  [("Commander", .ofText? w.commander), ("Ship", shipValue w.ship),
   ("StarSystem", .ofText? w.starSystem), ("StationName", .ofText? w.stationName),
   ("Body", .ofText? w.body), ("BodyType", bodyValue w.bodyType)]

/-- The names of the fields of a world state. -/
def fieldNames : List Text :=
  ["Commander", "Ship", "StarSystem", "StationName", "Body", "BodyType"]

/-- The value of a field in any letter case, if there is such a field. -/
def get? (w : World) (name : Text) : Option Value :=
  w.fields.find? name

/-- The value of a field in any letter case, or null. -/
def get (w : World) (name : Text) : Value :=
  (w.get? name).getD .null

end World

namespace Schema.Check

/-- A ship, an identifier, or null. -/
def ship : Value → Checked (Option (Listed ShipType))
  | .null => .ok none
  | .ship s => .ok (some (.known s))
  | v =>
    match v.spelled? with
    | some s => .ok (some (.other s))
    | none => .error [⟨["enum[ShipType]"], .notShip⟩, ⟨["str"], .notText⟩]

/-- A type of body, an identifier, or null. -/
def body : Value → Checked (Option (Listed BodyType))
  | .null => .ok none
  | .body b => .ok (some (.known b))
  | v =>
    match v.spelled? with
    | some s => .ok (some (.other s))
    | none => .error [⟨["enum[BodyType]"], .notBody⟩, ⟨["str"], .notText⟩]

end Schema.Check

open Schema in
/-- The state with the given values in its fields, or their problems in the order of the fields. -/
def World.check (commander ship starSystem stationName body bodyType : Value) : Checked World :=
  let step1 := (Check.within "Commander" (Check.optionalText commander)).map World.mk
  let step2 := Check.ap step1 (Check.within "Ship" (Check.ship ship))
  let step3 := Check.ap step2 (Check.within "StarSystem" (Check.optionalText starSystem))
  let step4 := Check.ap step3 (Check.within "StationName" (Check.optionalText stationName))
  let step5 := Check.ap step4 (Check.within "Body" (Check.optionalText body))
  Check.ap step5 (Check.within "BodyType" (Check.body bodyType))

end JournalHerald

import JournalHerald.Chronicle.Tracker

/-!
# The ship

Which ship the commander flies, and what it is called.
-/

namespace JournalHerald.Chronicle

/-- The present ship. The values come from the journal unchecked. -/
structure ShipState where
  type : Value := .null
  name : Value := .null
  id : Value := .null
  deriving Repr, Inhabited

namespace ShipState

/-- The value, or else another one if it is missing or empty. -/
def orElse (v : Option Value) (other : Value) : Value :=
  match v with
  | some v => if v.isTruthy then v else other
  | none => other

/-- The ship after an event. -/
def next (event : Event) (state : ShipState) : ShipState :=
  let field? := event.content.get?
  match event.kind.string? with
  | some "LoadGame" | some "Loadout" =>
    { type := ((field? "Ship").map Value.toShip).getD state.type
      name := if (field? "ShipName").isSome then orElse (field? "ShipName") .null else state.name
      id := (field? "ShipID").getD state.id }
  | some "ShipyardNew" =>
    { type := ((field? "ShipType").getD .null).toShip
      id := (field? "NewShipID").getD state.id
      name := .null }
  | some "ShipyardSwap" =>
    { type := ((field? "ShipType").getD .null).toShip
      id := (field? "ShipID").getD state.id
      name := .null }
  | some "SetUserShipName" => { state with name := orElse (field? "UserShipName") state.name }
  | _ => state

/-- Take the ship from an event that tells it. -/
def process (event : Event) (state : ShipState) : Step ShipState :=
  ⟨state.next event, none⟩

end ShipState

end JournalHerald.Chronicle

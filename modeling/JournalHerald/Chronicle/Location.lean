import JournalHerald.Chronicle.Tracker

/-!
# The location

Where the commander is: the star system, the station, the nearest body and its type. Each kind of event tells
some of these; what it does not tell is kept or forgotten according to the kind.
-/

namespace JournalHerald.Chronicle

/-- The present location. The values come from the journal unchecked. -/
structure LocationState where
  starSystem : Value := .null
  stationName : Value := .null
  body : Value := .null
  bodyType : Value := .null
  docked : Bool := false
  deriving Repr, Inhabited

namespace LocationState

/-- The value names a type of body other than deep space. -/
def namesBody (v : Value) : Bool :=
  match v with
  | .body .null => false
  | .text s => s != "" && s != "Null"
  | v => v.isTruthy

/-- The nearest body as the event tells it, or none. -/
def setBody (event : Event) (state : LocationState) : LocationState :=
  let bodyType := event.content.getD "BodyType" .null
  if namesBody bodyType then
    { state with body := event.content.getD "Body" .null, bodyType := bodyType.toBody }
  else { state with body := .null, bodyType := .null }

/-- The star system as the event tells it, or else as it was. -/
def setSystem (event : Event) (state : LocationState) : LocationState :=
  { state with starSystem := event.content.getD "StarSystem" state.starSystem }

/-- The location after an event. -/
def next (event : Event) (state : LocationState) : LocationState :=
  match event.kind.string? with
  | some "Location" =>
    let docked := (event.content.getD "Docked" (.bool false)).isTruthy
    let station := if docked then event.content.getD "StationName" .null else .null
    { state.setSystem event with docked, stationName := station }.setBody event
  | some "FSDJump" => { state.setSystem event with stationName := .null, docked := false }.setBody event
  | some "SupercruiseEntry" =>
    { state.setSystem event with stationName := .null, body := .null, bodyType := .null }
  | some "SupercruiseExit" => (state.setSystem event).setBody event
  | some "Docked" =>
    { state.setSystem event with
      docked := true, stationName := event.content.getD "StationName" state.stationName }
  | some "Undocked" => { state with docked := false }
  | some "ApproachSettlement" =>
    { state with
      stationName := event.content.getD "Name" state.stationName
      body := event.content.getD "BodyName" state.body
      bodyType := .body .planet }
  | some "ApproachBody" | some "Touchdown" =>
    { state with body := event.content.getD "Body" state.body, bodyType := .body .planet }
  | some "LeaveBody" =>
    { state with
      stationName := if state.docked then state.stationName else .null
      body := .null
      bodyType := .null }
  | _ => state

/-- Take the location from an event that tells it. -/
def process (event : Event) (state : LocationState) : Step LocationState :=
  ⟨state.next event, none⟩

end LocationState

end JournalHerald.Chronicle

import JournalHerald.Chronicle.Tracker
import JournalHerald.Message.MissionSummary
import JournalHerald.Schema.Check

/-!
# The missions

Which missions are open, in the order of their acceptance. A mission is open from its acceptance until it is
completed, abandoned or failed, or until a list of all open missions lacks it.

* `Mission.check` builds a mission from the fields of its acceptance;
* `MissionState.process` is what an event does to the open missions.
-/

namespace JournalHerald.Chronicle

/-- An open mission. The destination can be changed to values that are not checked. -/
structure Mission where
  id : Int
  name : Text := "Unknown"
  localisedName : Option Text := none
  faction : Option Text := none
  expiry : Option Text := none
  destinationSystem : Value := .null
  destinationStation : Value := .null
  reward : Option Int := none
  deriving Repr, Inhabited

namespace Mission

/-- Where the mission leads. -/
def destination (m : Mission) : Destination :=
  ⟨m.destinationSystem, m.destinationStation⟩

open Schema in
/-- The mission that an acceptance tells of, given its number. -/
def check (id : Int) (content : Fields) : Checked Mission :=
  let optional (name : Text) : Checked (Option Text) :=
    Check.within name (Check.optionalText (content.getD name .null))
  let name := Check.within "Name" (Check.text (content.getD "Name" (.text "Unknown")))
  let build (name : Text) (localised faction expiry system station : Option Text) : Mission :=
    { id, name, localisedName := localised, faction, expiry
      destinationSystem := .ofText? system, destinationStation := .ofText? station
      reward := (content.getD "Reward" .null).int? }
  let step1 := Check.ap (name.map build) (optional "LocalisedName")
  let step2 := Check.ap step1 (optional "Faction")
  let step3 := Check.ap step2 (optional "Expiry")
  let step4 := Check.ap step3 (optional "DestinationSystem")
  Check.ap step4 (optional "DestinationStation")

/-- The mission with the new destination of a redirection, as far as one is told. -/
def redirect (content : Fields) (m : Mission) : Mission :=
  let changed (name : Text) (old : Value) : Value :=
    let v := content.getD name .null
    if v.isTruthy then v else old
  { m with
    destinationSystem := changed "NewDestinationSystem" m.destinationSystem
    destinationStation := changed "NewDestinationStation" m.destinationStation }

end Mission

/-- The open missions, by acceptance. -/
structure MissionState where
  active : List Mission := []
  deriving Repr, Inhabited

namespace MissionState

/-- The numbers in a list of open missions: the list has to consist of objects. -/
def listedIds? : Value → Option (List Value)
  | .list items =>
    items.mapM fun item =>
      match item with
      | .object fields => some (Fields.getD fields "MissionID" .null)
      | _ => none
  | .object [] => some []
  | .text [] => some []
  | _ => none

/-- The missions without those of a number. -/
def remove (id : Value) (active : List Mission) : List Mission :=
  active.filter fun m => !id.equalsInt m.id

/-- What an event does to the open missions. -/
def process (event : Event) (state : MissionState) : Step MissionState :=
  let content := event.content
  let id := content.getD "MissionID" .null
  match event.kind.string? with
  | some "Missions" =>
    match listedIds? (content.getD "Active" (.list [])) with
    | some ids => ⟨⟨state.active.filter fun m => ids.any fun i => i.equalsInt m.id⟩, none⟩
    | none => ⟨state, some .malformedMissions⟩
  | some "MissionAccepted" =>
    match id.int? with
    | none => ⟨state, none⟩
    | some n =>
      let others := remove id state.active
      match Mission.check n content with
      | .ok mission => ⟨⟨others ++ [mission]⟩, none⟩
      | .error problems => ⟨⟨others⟩, some (.invalid problems)⟩
  | some "MissionRedirected" =>
    ⟨⟨state.active.map fun m => if id.equalsInt m.id then m.redirect content else m⟩, none⟩
  | some "MissionCompleted" | some "MissionAbandoned" | some "MissionFailed" =>
    ⟨⟨remove id state.active⟩, none⟩
  | _ => ⟨state, none⟩

end MissionState

end JournalHerald.Chronicle

import JournalHerald.Event
import JournalHerald.World
import JournalHerald.Text.Blank

/-!
# The summary of open missions

What a message shows for its list of missions. A message that also shows the star system or the station keeps
only the missions to the present one. The missions kept are counted by star system, or by station within the
star system, or only counted if the station alone is shown.

* `MissionSummary.kept` are the missions that pass;
* `MissionSummary.groups` are their distinct destinations in the order of the summary, with their counts;
* `MissionSummary.text` is the summary.
-/

namespace JournalHerald

/-- Where a mission leads. The values come from the journal unchecked. -/
structure Destination where
  system : Value
  station : Value
  deriving Repr, Inhabited

namespace MissionSummary

/-- A text that is not blank. -/
def name? : Value → Option Text
  | .text s => if Text.isBlankText s then none else some s
  | _ => none

/-- The present star system or station: the event's own, or else the world's. -/
def effective? (field : Text) (event : Option Event) (world : World) : Option Text :=
  match event.bind fun e => name? (e.get field) with
  | some s => some s
  | none => (world.get field).text?

/-- A destination is the present place, letter case aside. -/
def isAt (place : Option Text) (destination : Value) : Bool :=
  match name? destination, place with
  | some d, some p => Text.lowercase d == Text.lowercase p
  | _, _ => false

/-- The message shows a field. -/
def shows (names : List Text) (field : Text) : Bool :=
  (names.map Text.lowercase).contains field

/-- The missions that the summary covers. -/
def kept (names : List Text) (event : Option Event) (world : World) (missions : List Destination) :
    List Destination :=
  let missions :=
    if shows names "starsystem" then
      missions.filter fun m => isAt (effective? "StarSystem" event world) m.system
    else missions
  if shows names "stationname" then
    missions.filter fun m => isAt (effective? "StationName" event world) m.station
  else missions

/-- The order of groups: unknown destinations first, then by the name in lower case, then by the name. -/
def before : Option Text → Option Text → Bool
  | none, _ => true
  | some _, none => false
  | some s, some t =>
    let ls := Text.lowercase s
    let lt := Text.lowercase t
    Text.before ls lt || (ls == lt && !Text.before t s)

/-- The distinct destinations in order, each with its number of occurrences. -/
def groups (destinations : List (Option Text)) : List (Option Text × Nat) :=
  (destinations.eraseDups.mergeSort before).map fun d => (d, destinations.count d)

/-- The line of a group. -/
def groupLine (unknown : Text) (group : Option Text × Nat) : Text :=
  group.1.getD unknown ++ " (" ++ Text.natText group.2 ++ ")"

/-- The label of missions to an unknown star system. -/
def unknownSystem : Text := "(Unknown Star System)"

/-- The label of missions to an unknown station. -/
def unknownStation : Text := "(Unknown Station)"

/-- The lines for the missions kept, of which there is at least one. -/
def lines (names : List Text) (missions : List Destination) : List Text :=
  if shows names "starsystem" then
    (groups (missions.map fun m => name? m.station)).map (groupLine unknownStation)
  else if shows names "stationname" then
    [Text.natText missions.length ++ " mission(s) at this station)"]
  else (groups (missions.map fun m => name? m.system)).map (groupLine unknownSystem)

/-- The summary. -/
def text (names : List Text) (event : Option Event) (world : World) (missions : List Destination) :
    Text :=
  match kept names event world missions with
  | [] => "None"
  | missions => Text.joinWith "\n" (lines names missions)

end MissionSummary

end JournalHerald

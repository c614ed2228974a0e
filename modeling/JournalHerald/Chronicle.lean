import JournalHerald.Chronicle.Commander
import JournalHerald.Chronicle.History
import JournalHerald.Chronicle.Location
import JournalHerald.Chronicle.Missions
import JournalHerald.Chronicle.PlayTime
import JournalHerald.Chronicle.Ship
import JournalHerald.Message.Trace

/-!
# The chronicle

Everything that is known about the game, drawn from the events of the journal by six trackers. Every event is
fed to all of them in turn, also after one of them has failed on it; the history comes last, so that an event
is counted in the state of the world that it leads to.

* `Chronicle.process` takes in an event and tells which trackers failed;
* `Chronicle.world?` is the state of the world, whose values are checked only here;
* `Chronicle.sources` are the sources of messages.
-/

namespace JournalHerald

namespace Chronicle

/-- The trackers, in the order in which they see an event. -/
inductive Tracker where
  | commander | location | ship | missions | playTime | history
  deriving DecidableEq, Repr

end Chronicle

open Chronicle in
/-- The states of all trackers. -/
structure Chronicle where
  commander : Tracked CommanderState := ⟨{}, ""⟩
  location : Tracked LocationState := ⟨{}, ""⟩
  ship : Tracked ShipState := ⟨{}, ""⟩
  missions : Tracked MissionState := ⟨{}, ""⟩
  playTime : Tracked PlayTimeState := ⟨{}, ""⟩
  history : Tracked HistoryState := ⟨{}, ""⟩
  deriving Repr

namespace Chronicle

/-- The chronicle before the first event. -/
def empty : Chronicle := {}

/-- The state of the world, or what keeps it from being one. -/
def world? (c : Chronicle) : Except Failure World :=
  match World.check c.commander.state.name c.ship.state.type c.location.state.starSystem
      c.location.state.stationName c.location.state.body c.location.state.bodyType with
  | .ok world => .ok world
  | .error problems => .error (.invalid problems)

/-- Feed an event to the trackers other than the history. -/
def processFacts (event : Event) (c : Chronicle) : Chronicle × List (Tracker × Failure) :=
  let (commander, f1) := c.commander.update CommanderState.process event
  let (location, f2) := c.location.update LocationState.process event
  let (ship, f3) := c.ship.update ShipState.process event
  let (missions, f4) := c.missions.update MissionState.process event
  let (playTime, f5) := c.playTime.update PlayTimeState.process event
  let failed (t : Tracker) (f : Option Failure) : List (Tracker × Failure) :=
    (f.map fun failure => (t, failure)).toList
  ({ c with commander, location, ship, missions, playTime },
   failed .commander f1 ++ failed .location f2 ++ failed .ship f3 ++ failed .missions f4 ++
     failed .playTime f5)

/-- Take in an event. The second component lists the trackers that failed on it. -/
def process (event : Event) (c : Chronicle) : Chronicle × List (Tracker × Failure) :=
  let (c, failures) := c.processFacts event
  let (history, failure) := c.history.update (HistoryState.process c.world?) event
  ({ c with history }, failures ++ (failure.map fun f => (Tracker.history, f)).toList)

/-- Take in events one after the other. -/
def processAll (events : List Event) (c : Chronicle) : Chronicle :=
  events.foldl (fun c e => (c.process e).1) c

/-- How many events meet the criteria. -/
def count (criteria : Criteria) (c : Chronicle) : Nat :=
  c.history.state.count criteria

/-- The play time to show. -/
def counters (c : Chronicle) : Except Failure Message.Counters :=
  c.playTime.state.counters

/-- The open missions, by acceptance. -/
def openMissions (c : Chronicle) : List Mission :=
  c.missions.state.active

/-- The chronicle as the sources of messages. It is only read. -/
def sources : Message.Sources Chronicle where
  world := do (← get).world?
  count criteria := return .int ((← get).count criteria)
  counters := do (← get).counters
  missions := return (← get).openMissions.map Mission.destination

/-- The message for a format. -/
def compose (c : Chronicle) (request : Message.Request) (format : Text) :
    Except Failure (List Part) :=
  ((Message.composeTraced sources request format).run.run c).1

end Chronicle

end JournalHerald

import JournalHerald.Chronicle.Tracker
import JournalHerald.Message.Sources
import JournalHerald.Time.TimestampReader

/-!
# The play time

How long the game has been played. A session begins when a game is loaded and ends with a shutdown, or with
the last event before the next game is loaded. A length that cannot be told from the time stamps counts as
none at all.

* `PlayTimeState.process` is what an event does to the sessions;
* `PlayTimeState.counters` is the play time to show.
-/

namespace JournalHerald.Chronicle

open Message (Counters)

/-- The sessions so far. -/
structure PlayTimeState where
  sessions : Nat := 0
  /-- The length of all finished sessions in seconds. -/
  closedSeconds : Double := .zero
  /-- The time stamp at the start of the running session. -/
  sessionStart : Option Text := none
  /-- The time stamp of the latest event that had one. -/
  lastSeen : Option Text := none
  deriving Repr, Inhabited

namespace PlayTimeState

/-- The length of the running session in seconds, as far as the time stamps tell it. -/
def sessionSeconds (state : PlayTimeState) : Except Failure (Option Double) :=
  match state.sessionStart, state.lastSeen with
  | some start, some last =>
    match Timestamp.ofJournal? start, Timestamp.ofJournal? last with
    | some start, some last =>
      match last.since? start with
      | some span => .ok (some span.totalSeconds.atLeastZero)
      | none => .error .mixedOffsets
    | _, _ => .ok none
  | _, _ => .ok none

/-- End the running session. -/
def closeSession (state : PlayTimeState) : Except Failure PlayTimeState :=
  match state.sessionSeconds with
  | .ok (some seconds) =>
    .ok { state with closedSeconds := state.closedSeconds.add seconds, sessionStart := none }
  | .ok none => .ok { state with sessionStart := none }
  | .error failure => .error failure

/-- A text if it is not empty. -/
def stamp? (event : Event) : Option Text :=
  if event.timestamp = "" then none else some event.timestamp

/-- Begin a session, after a session without a shutdown has been ended. -/
def openSession (event : Event) (state : PlayTimeState) : Except Failure PlayTimeState :=
  match state.closeSession with
  | .ok state => .ok { state with sessions := state.sessions + 1, sessionStart := stamp? event }
  | .error failure => .error failure

/-- Note the time stamp of an event. -/
def see (event : Event) (state : PlayTimeState) : PlayTimeState :=
  match stamp? event with
  | some stamp => { state with lastSeen := some stamp }
  | none => state

/-- What an event does to the sessions. -/
def process (event : Event) (state : PlayTimeState) : Step PlayTimeState :=
  match event.kind.string? with
  | some "LoadGame" =>
    match state.openSession event with
    | .ok state => ⟨state.see event, none⟩
    | .error failure => ⟨state, some failure⟩
  | some "Shutdown" =>
    let state := state.see event
    match state.closeSession with
    | .ok state => ⟨state, none⟩
    | .error failure => ⟨state, some failure⟩
  | _ => ⟨state.see event, none⟩

/-- A number of seconds as a span of time. -/
def span (seconds : Double) : Except Failure Duration :=
  match Duration.ofSeconds? seconds with
  | some d => .ok d
  | none => .error .hugeDuration

/-- The play time to show. -/
def counters (state : PlayTimeState) : Except Failure Counters := do
  let current ← state.sessionSeconds
  let total ← span (state.closedSeconds.add (current.getD .zero))
  let current ← match current with
    | some seconds => (span seconds).map some
    | none => pure none
  return { sessions := state.sessions, total, current }

end PlayTimeState

end JournalHerald.Chronicle

import JournalHerald.Event
import JournalHerald.Failure

/-!
# Trackers

A tracker draws one piece of knowledge about the game from the events that it sees, one after the other. An
event that a tracker cannot digest fails for that tracker; what it had changed by then stays changed.

* `Step` is what comes of one event, `Tracked` a state with the time stamp of the last event digested;
* `Tracked.update` feeds an event to a tracker.
-/

namespace JournalHerald.Chronicle

/-- The state after an event and why the event failed, if it did. -/
structure Step (α : Type) where
  state : α
  failure : Option Failure := none
  deriving Repr

/-- The state of a tracker. -/
structure Tracked (α : Type) where
  state : α
  /-- The time stamp of the last event that had one and did not fail. -/
  lastProcessed : Text := ""
  deriving Repr

/-- Feed an event to a tracker that digests it by `process`. -/
def Tracked.update {α : Type} (process : Event → α → Step α) (event : Event) (tracked : Tracked α) :
    Tracked α × Option Failure :=
  let step := process event tracked.state
  let stamp := event.timestamp
  let last := if step.failure.isNone && stamp != "" then stamp else tracked.lastProcessed
  (⟨step.state, last⟩, step.failure)

end JournalHerald.Chronicle

import JournalHerald.Notification

/-!
# The dispatch queue

Notifications are shown one at a time, in the order in which they were added. A worker takes the oldest one,
hands it to the presenter and waits for the display to acknowledge it before it takes the next one. A presenter
that fails is not waited for. To stop the queue sets the stop signal of the current worker and drops what is
pending; a worker that finds its signal set ends. A worker that is held up by its presenter lives on until the
presenter returns, also after the next worker has been started.

What the threads do is cut into actions, each of which happens in one piece.

* `Dispatch` is the state, `Worker` the state of one worker;
* `Dispatch.Action` is what can happen, `Dispatch.act?` its effect, which is missing where it cannot happen.
-/

namespace JournalHerald

namespace Dispatch

/-- Where a worker is in its round. -/
inductive Phase where
  /-- It waits for a notification. -/
  | idle
  /-- It has taken a notification out of the queue. -/
  | taken (n : Notification)
  /-- It has called the presenter, which has not come back. -/
  | presenting (n : Notification)
  /-- The presenter has returned, and the worker waits for the acknowledgement. -/
  | presented (n : Notification)
  /-- The presenter has failed. -/
  | failed (n : Notification)
  | ended
  deriving DecidableEq, Repr

/-- A worker with its own stop signal. -/
structure Worker where
  phase : Phase := .idle
  stopped : Bool := false
  deriving DecidableEq, Repr

end Dispatch

open Dispatch in
/-- The state of the queue and of its workers. -/
structure Dispatch where
  pending : List Notification := []
  /-- A notification has been taken and is not yet done with. -/
  awaiting : Bool := false
  /-- The display has acknowledged since the last notification was taken. -/
  acknowledged : Bool := false
  /-- The workers in the order in which they were started. -/
  workers : List Worker := []
  /-- The queue holds on to the worker that was started last. -/
  started : Bool := false
  /-- The notifications that the presenter has been called with. -/
  shown : List Notification := []
  deriving DecidableEq, Repr

namespace Dispatch

/-- The message to a caller who gives no positive number of seconds. -/
def usualDurationFault : Text := "default_display_duration must be positive"

/-- The usual number of seconds is one to work with. -/
def acceptsDuration (usual : Int) : Bool := 0 < usual

/-- The worker that was started last. -/
def lastWorker (d : Dispatch) : Nat := d.workers.length - 1

/-- A worker with a number has ended. -/
def hasEnded (d : Dispatch) (w : Nat) : Bool :=
  match d.workers[w]? with
  | some worker => worker.phase == .ended
  | none => true

/-- There is a worker to take notifications. -/
def isRunning (d : Dispatch) : Bool :=
  d.started && !d.hasEnded d.lastWorker

/-- What can happen to the queue. -/
inductive Action where
  /-- Somebody adds a notification. -/
  | add (n : Notification)
  /-- The display acknowledges. -/
  | acknowledge
  /-- A new worker is started. -/
  | launch
  /-- The stop signal of the current worker is set, and what is pending is dropped. -/
  | signal
  /-- The queue lets go of the current worker. -/
  | forget
  /-- A worker that waits for a notification takes one, or ends. -/
  | take (w : Nat)
  /-- A worker calls the presenter. -/
  | call (w : Nat)
  /-- The presenter called by a worker returns. -/
  | finish (w : Nat)
  /-- The presenter called by a worker fails. -/
  | fail (w : Nat)
  /-- A worker whose presenter failed goes on, or ends. -/
  | recover (w : Nat)
  /-- A worker that waits for the acknowledgement goes on, or ends. -/
  | proceed (w : Nat)
  deriving DecidableEq, Repr

/-- Put a worker into a phase. -/
def enter (w : Nat) (worker : Worker) (phase : Phase) (d : Dispatch) : Dispatch :=
  { d with workers := d.workers.set w { worker with phase } }

/-- A waiting worker takes the oldest notification. Acknowledgements from before count no more. -/
def take? (w : Nat) (worker : Worker) (d : Dispatch) : Option Dispatch :=
  if worker.stopped then some (d.enter w worker .ended)
  else
    match d.pending with
    | [] => none
    | n :: rest =>
      some ({ d with pending := rest, acknowledged := false, awaiting := true }.enter w worker (.taken n))

/-- A worker leaves the wait for the acknowledgement. -/
def proceed? (w : Nat) (worker : Worker) (d : Dispatch) : Option Dispatch :=
  if worker.stopped then some (d.enter w worker .ended)
  else if d.acknowledged then some ({ d with awaiting := false }.enter w worker .idle)
  else none

/-- A worker goes on after a failure of the presenter. -/
def recover (w : Nat) (worker : Worker) (d : Dispatch) : Dispatch :=
  if worker.stopped then d.enter w worker .ended
  else { d with awaiting := false }.enter w worker .idle

/-- Set the stop signal of the last worker. -/
def signalLast : List Worker → List Worker
  | [] => []
  | [worker] => [{ worker with stopped := true }]
  | worker :: rest => worker :: signalLast rest

/-- The state after an action, if the action is possible. -/
def act? (d : Dispatch) : Action → Option Dispatch
  | .add n => some { d with pending := d.pending ++ [n] }
  | .acknowledge => some (if d.awaiting then { d with acknowledged := true } else d)
  | .launch => some { d with workers := d.workers ++ [{}], started := true }
  | .signal =>
    if d.started then
      some { d with workers := signalLast d.workers, pending := [], awaiting := false }
    else none
  | .forget => some { d with started := false }
  | .take w =>
    match d.workers[w]? with
    | some ⟨.idle, stopped⟩ => d.take? w ⟨.idle, stopped⟩
    | _ => none
  | .call w =>
    match d.workers[w]? with
    | some ⟨.taken n, stopped⟩ =>
      some ({ d with shown := d.shown ++ [n] }.enter w ⟨.taken n, stopped⟩ (.presenting n))
    | _ => none
  | .finish w =>
    match d.workers[w]? with
    | some ⟨.presenting n, stopped⟩ => some (d.enter w ⟨.presenting n, stopped⟩ (.presented n))
    | _ => none
  | .fail w =>
    match d.workers[w]? with
    | some ⟨.presenting n, stopped⟩ => some (d.enter w ⟨.presenting n, stopped⟩ (.failed n))
    | _ => none
  | .recover w =>
    match d.workers[w]? with
    | some ⟨.failed n, stopped⟩ => some (d.recover w ⟨.failed n, stopped⟩)
    | _ => none
  | .proceed w =>
    match d.workers[w]? with
    | some ⟨.presented n, stopped⟩ => d.proceed? w ⟨.presented n, stopped⟩
    | _ => none

/-- The state after an action, or the same state where the action is not possible. -/
def act (d : Dispatch) (action : Action) : Dispatch :=
  (d.act? action).getD d

end Dispatch

end JournalHerald

import JournalHerald.Dispatch

/-!
# Running the dispatch queue

How the queue goes on by itself when it is known what the presenter does with each notification: after every
call from outside the workers act until each of them waits for something.

* `Dispatch.Behaviour` is what a presenter does before it returns or fails;
* `Dispatch.settle` lets the workers act;
* `Dispatch.perform` is a call from outside and what follows from it.
-/

namespace JournalHerald.Dispatch

/-- What a presenter does. -/
inductive Deed where
  | nothing
  /-- It acknowledges at once. -/
  | acknowledge
  /-- It stops the queue. -/
  | stop
  /-- It adds another notification. -/
  | add (n : Notification)
  /-- It waits until it is released. -/
  | block
  deriving DecidableEq, Repr

/-- What a presenter does and whether it fails in the end. -/
structure Behaviour where
  deed : Deed := .nothing
  fails : Bool := false
  deriving DecidableEq, Repr

/-- The behaviour of the presenter for each notification. -/
abbrev Plan := Notification → Behaviour

/-- The presenter shows everything and nothing else. -/
def Plan.plain : Plan := fun _ => {}

/-- The presenter called by a worker comes back. -/
def comeBack (fails : Bool) (w : Nat) (d : Dispatch) : Dispatch :=
  d.act (if fails then .fail w else .finish w)

/-- The presenter called by a worker does its deed, and comes back unless it is held up. -/
def present (behaviour : Behaviour) (w : Nat) (d : Dispatch) : Dispatch :=
  match behaviour.deed with
  | .nothing => d.comeBack behaviour.fails w
  | .acknowledge => (d.act .acknowledge).comeBack behaviour.fails w
  | .stop => ((d.act .signal).act .forget).comeBack behaviour.fails w
  | .add n => (d.act (.add n)).comeBack behaviour.fails w
  | .block => d

/-- A worker goes on, if it can. -/
def advance? (plan : Plan) (w : Nat) (d : Dispatch) : Option Dispatch :=
  match d.workers[w]? with
  | some ⟨.idle, _⟩ => d.act? (.take w)
  | some ⟨.taken n, _⟩ => (d.act? (.call w)).map (present (plan n) w)
  | some ⟨.presented _, _⟩ => d.act? (.proceed w)
  | some ⟨.failed _, _⟩ => d.act? (.recover w)
  | _ => none

/-- The first worker that can go on does so. -/
def advanceAny? (plan : Plan) (d : Dispatch) : Option Dispatch :=
  (List.range d.workers.length).findSome? fun w => d.advance? plan w

/-- Let workers go on at most so many times. -/
def settleWithin (plan : Plan) : Nat → Dispatch → Dispatch
  | 0, d => d
  | n + 1, d =>
    match d.advanceAny? plan with
    | some d => settleWithin plan n d
    | none => d

/-- Let the workers go on until each of them waits. A notification takes a worker three actions, and a
worker ends with a fourth; a presenter that adds a notification waits for an acknowledgement. -/
def settle (plan : Plan) (d : Dispatch) : Dispatch :=
  settleWithin plan (4 * (d.pending.length + 2 * d.workers.length + 1)) d

/-- A call from outside. -/
inductive Cue where
  | add (n : Notification)
  | acknowledge
  | start
  | stop
  /-- The presenters that are held up go on. -/
  | release
  deriving Repr

/-- Stop the queue. The answer is that no worker is left, or is left to its presenter. -/
def stop (plan : Plan) (d : Dispatch) : Dispatch × Bool :=
  if d.started then
    let d := (d.act .signal).settle plan
    (d.act .forget, d.hasEnded d.lastWorker)
  else (d, true)

/-- The presenter called by a worker comes back if it was held up. -/
def releaseWorker (plan : Plan) (d : Dispatch) (w : Nat) : Dispatch :=
  match d.workers[w]? with
  | some ⟨.presenting n, _⟩ => d.comeBack (plan n).fails w
  | _ => d

/-- A call from outside, and its answer if it has one. -/
def perform (plan : Plan) (d : Dispatch) : Cue → Dispatch × Option Bool
  | .add n => ((d.act (.add n)).settle plan, none)
  | .acknowledge => ((d.act .acknowledge).settle plan, none)
  | .start => (((d.stop plan).1.act .launch).settle plan, none)
  | .stop => let (d, done) := d.stop plan; (d, some done)
  | .release =>
    (((List.range d.workers.length).foldl (releaseWorker plan) d).settle plan, none)

end JournalHerald.Dispatch

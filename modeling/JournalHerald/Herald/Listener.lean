/-!
# Listeners

A listener is told something from time to time and may fail on it, which nobody else notices, or may have the
herald stopped. What it does can depend on all that it has been told.

* `Listener` is a listener with what it has been told, `Listener.hear` tells it one thing more;
* `Listener.call` says whether it fails on that, `tellAll` tells all listeners.
-/

namespace JournalHerald.Herald

/-- What a listener does when it is told something. -/
inductive Reaction where
  | accept
  | fail
  /-- It has the herald stopped. -/
  | stop
  deriving DecidableEq, Repr

/-- Somebody who is told things of type `α`. -/
structure Listener (α : Type) where
  /-- What the listener does, given all that it has been told up to now. -/
  react : List α → Reaction
  /-- What the listener has been told, in order. -/
  told : List α := []

namespace Listener

/-- A listener that always does the same. -/
def always {α : Type} (reaction : Reaction) : Listener α :=
  { react := fun _ => reaction }

/-- Tell a listener something. -/
def hear {α : Type} (a : α) (l : Listener α) : Listener α :=
  { l with told := l.told ++ [a] }

/-- What a listener does about the last thing it was told. -/
def reaction {α : Type} (l : Listener α) : Reaction :=
  l.react l.told

/-- The listener after it has been told something, and whether it has failed on that. -/
def call {α : Type} (a : α) (l : Listener α) : Except (Listener α) (Listener α) :=
  let l := l.hear a
  if l.reaction = .fail then .error l else .ok l

end Listener

/-- Tell all listeners something, one after the other. A failure concerns nobody but the listener that fails. -/
def tellAll {α : Type} (a : α) : List (Listener α) → List (Listener α)
  | [] => []
  | l :: rest =>
    match l.call a with
    | .ok l => l :: tellAll a rest
    | .error l => l :: tellAll a rest

/-- Some listener wants the herald stopped. -/
def wantsStop {α : Type} (listeners : List (Listener α)) : Bool :=
  listeners.any fun l => l.reaction == .stop

end JournalHerald.Herald

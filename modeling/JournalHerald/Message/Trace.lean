import JournalHerald.Message.Composer

/-!
# Traces of messages

The program keeps a trace of its calls. Once a message has been composed, its event is written into the
trace, and so it is once past events have been counted for the message. Not every value can be written: a
whole number may have too many digits, and the stack has room for so many values within one another. What
cannot be written makes the call fail, whatever else came of it.

* `Value.unwritable?` tells why a value cannot be written, `Event.unwritable?` why an event cannot be;
* `traced` is an action with the trace of its event, `Sources.traced` are sources with a trace of each count;
* `composeTraced` is the message for a format with all of its traces.
-/

namespace JournalHerald

namespace Value

mutual

/-- Why a value cannot be written where there is room for so many values within one another, if it cannot.
The value itself is the first of them. -/
def unwritable? : Nat → Value → Option Failure
  | 0, _ => some .deepValue
  | _ + 1, .int i => if Json.maxDigits < (Text.natText i.natAbs).length then some .longNumber else none
  | room + 1, .list items => unwritableItem? room items
  | room + 1, .object fields => unwritableField? room fields
  | _ + 1, _ => none

/-- Why one of the items of a list cannot be written: the reason of the first one. -/
def unwritableItem? (room : Nat) : List Value → Option Failure
  | [] => none
  | v :: rest => (v.unwritable? room).or (unwritableItem? room rest)

/-- Why one of the fields of an object cannot be written: the reason of the first one. -/
def unwritableField? (room : Nat) : List (Text × Value) → Option Failure
  | [] => none
  | (_, v) :: rest => (v.unwritable? room).or (unwritableField? room rest)

end

end Value

/-- Why an event cannot be written where there is room for so many values within one another in each of its
fields, if it cannot. -/
def Event.unwritable? (room : Nat) (event : Event) : Option Failure :=
  Value.unwritableField? room event.content

namespace Message

/-- The room for the fields of an event when its message has been composed. -/
def messageRoom : Nat := 988

/-- The room for the fields of an event when past events have been counted, further up the stack. -/
def countRoom : Nat := 983

/-- The room for the answer to a count when it is logged. -/
def answerRoom : Nat := 987

section
variable {σ α : Type}

/-- Fail if there is a reason to. -/
def failFor : Option Failure → Action σ Unit
  | some failure => throw failure
  | none => pure ()

/-- An action after which an event is written into the trace. If the event cannot be written, the action
fails for that reason, whatever its outcome was. -/
def traced (room : Nat) (event : Option Event) (action : Action σ α) : Action σ α :=
  ExceptT.mk do
    let outcome ← action.run
    return match event.bind (Event.unwritable? room) with
      | some failure => .error failure
      | none => outcome

end

/-- The sources with a trace of each count, for a message about an event. The answer is logged first. -/
def Sources.traced {σ : Type} (event : Option Event) (sources : Sources σ) : Sources σ :=
  { sources with
    count := fun criteria => Message.traced countRoom event do
      let answer ← sources.count criteria
      failFor (answer.unwritable? answerRoom)
      return answer }

/-- Why the text for a name cannot be written although its source has answered: the number of sessions may
have too many digits. -/
def Memo.unwritable? (memo : Memo) (name : Text) : Option Failure :=
  if CounterName.ofName? name = some .sessions then
    memo.counters.bind fun counters => (Value.int counters.sessions).unwritable? 1
  else none

section
variable {σ : Type} (sources : Sources σ)

/-- The text for a name, provided that it can be written. -/
def resolveWritten (names : List Text) (request : Request) (world : World) (memo : Memo) (name : Text) :
    Action σ (Option Text × Memo) := do
  let (text, memo) ← resolve sources names request world memo name
  failFor (memo.unwritable? name)
  return (text, memo)

/-- The message for a format with its traces. The value of a field needs no room of its own: what can be
written into the trace in the end can be shown. -/
def composeTraced (request : Request) (format : Text) : Action σ (List Part) :=
  traced messageRoom request.event do
    let tokens := tokens format
    let sources := sources.traced request.event
    let world ← sources.world
    composeFrom (resolveWritten sources (tokenNames tokens) request world) request format {} 0 tokens

end

end Message

end JournalHerald

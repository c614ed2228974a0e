import JournalHerald.Message.Placeholder
import JournalHerald.Message.Sources

/-!
# Composing messages

A message is composed in one pass over its format. Each placeholder is replaced by a value, which comes from
the first of these that has one:

1. the count of past events and its ordinal, for a message with an event;
2. the summary of open missions;
3. the play time;
4. a field of the event, if it shows as anything;
5. a field of the world state, if it shows as anything.

A placeholder without a value shows its name in the error style. The count, the summary and the play time are
asked for at most once in a message and kept in a `Memo`.

* `resolve` finds the text for a name, `composeFrom` puts the texts between the literal ones;
* `compose` is the whole message.

Values are shown here however deep they are and however long their numbers. What cannot be written makes a
message fail when its trace is written (`composeTraced`).
-/

namespace JournalHerald.Message

/-- The ending of an ordinal number. -/
def ordinalSuffix (n : Int) : Text :=
  if 10 < n % 100 ∧ n % 100 < 20 then "th"
  else if n % 10 = 1 then "st"
  else if n % 10 = 2 then "nd"
  else if n % 10 = 3 then "rd"
  else "th"

/-- A number as an ordinal. -/
def ordinal (n : Int) : Text :=
  Text.intText n ++ ordinalSuffix n

/-- What a message is about and how it is to look. -/
structure Request where
  event : Option Event
  filterOnCommander : Bool
  textStyle : Style := .default
  tokenStyle : Style := .default
  deriving Repr

/-- What has already been asked for in a message. -/
structure Memo where
  count : Option Int := none
  summary : Option Text := none
  counters : Option Counters := none
  deriving Repr, Inhabited

/-- A text if it is not empty. -/
def nonempty? (s : Text) : Option Text :=
  if s = "" then none else some s

/-- The counters that a message can show. -/
inductive CounterName where
  | sessions | total | current
  deriving DecidableEq, Repr

/-- Every counter, in the order in which counters are listed to the user. -/
def CounterName.all : List CounterName := [.sessions, .total, .current]

/-- The name of a counter. -/
def CounterName.label : CounterName → Text
  | .sessions => "SessionsPlayed"
  | .total => "TotalTimePlayed"
  | .current => "CurrentSessionPlayed"

/-- The counter with a name, in any letter case. -/
def CounterName.ofName? (name : Text) : Option CounterName :=
  CounterName.all.find? fun c => Text.lowercase c.label == Text.lowercase name

/-- How a message shows a counter. -/
def Counters.show (counters : Counters) : CounterName → Text
  | .sessions => Text.intText counters.sessions
  | .total => Duration.describe (some counters.total)
  | .current => Duration.describe counters.current

/-- What a message shows for a field of its event or else of the world. -/
def fieldText? (event : Option Event) (world : World) (name : Text) : Option Text :=
  (event.bind fun e => nonempty? (e.get name).render) <|> nonempty? (world.get name).render

/-- The style of the value of a placeholder: its own, if it names one. -/
def styleOf (request : Request) (p : Placeholder) : Style :=
  (p.style.bind Style.parse?).getD request.tokenStyle

/-- The piece of a message that stands for a placeholder. -/
def partOf (request : Request) (p : Placeholder) : Option Text → Part
  | some text => ⟨text, styleOf request p⟩
  | none => ⟨"(no value found for " ++ p.key ++ ")", .error⟩

/-- The literal text of a format from one place up to another one, as a piece of a message unless it is
empty. -/
def literal (request : Request) (format : Text) (start stop : Nat) : List Part :=
  if start < stop then [⟨(format.take stop).drop start, request.textStyle⟩] else []

/-- How a message finds the text for a name, given what it has asked for so far. -/
abbrev Lookup (σ : Type) := Memo → Text → Action σ (Option Text × Memo)

/-- The pieces of a message from a place in its format on, given the tokens behind that place. -/
def composeFrom {σ : Type} (lookup : Lookup σ) (request : Request) (format : Text) :
    Memo → Nat → List Token → Action σ (List Part)
  | _, index, [] => pure (literal request format index format.length)
  | memo, index, token :: rest => do
    let (text, memo) ← lookup memo token.placeholder.key
    let parts ← composeFrom lookup request format memo token.stop rest
    return literal request format index token.start ++ partOf request token.placeholder text :: parts

section
variable {σ : Type} (sources : Sources σ)

/-- The count of past events, asked for unless it is known. -/
def countFor (names : List Text) (request : Request) (world : World) (memo : Memo) :
    Action σ (Option Int × Memo) :=
  match request.event with
  | none => pure (none, memo)
  | some event =>
    match memo.count with
    | some n => pure (some n, memo)
    | none => do
      let answer ← sources.count
        (Criteria.forMessage names event world request.filterOnCommander)
      let n ← (shownCount answer : Except Failure Int)
      return (some n, { memo with count := some n })

/-- The summary of open missions, asked for unless it is known. -/
def summaryFor (names : List Text) (request : Request) (world : World) (memo : Memo) :
    Action σ (Text × Memo) :=
  match memo.summary with
  | some s => pure (s, memo)
  | none => do
    let missions ← sources.missions
    let s := MissionSummary.text names request.event world missions
    return (s, { memo with summary := some s })

/-- The play time, asked for unless it is known. -/
def countersFor (memo : Memo) : Action σ (Counters × Memo) :=
  match memo.counters with
  | some c => pure (c, memo)
  | none => do
    let c ← sources.counters
    return (c, { memo with counters := some c })

/-- The text that a message shows for a name, if there is one. The names of all placeholders in the
message narrow the count and the summary. -/
def resolve (names : List Text) (request : Request) (world : World) (memo : Memo) (name : Text) :
    Action σ (Option Text × Memo) :=
  if name = "count" then do
    let (n, memo) ← countFor sources names request world memo
    return (n.map Text.intText, memo)
  else if name = "ordinalcount" then do
    let (n, memo) ← countFor sources names request world memo
    return (n.map ordinal, memo)
  else if name = "missionlist" then do
    let (s, memo) ← summaryFor sources names request world memo
    return (some s, memo)
  else
    match CounterName.ofName? name with
    | some counter => do
      let (counters, memo) ← countersFor sources memo
      return (some (counters.show counter), memo)
    | none => pure (fieldText? request.event world name, memo)

/-- The message for a format. -/
def compose (request : Request) (format : Text) : Action σ (List Part) := do
  let tokens := tokens format
  let world ← sources.world
  composeFrom (resolve sources (tokenNames tokens) request world) request format {} 0 tokens

/-- Resolve names one after the other, each answered on its own: a name that fails does not keep the
later ones from being answered. -/
def resolveEach (names : List Text) (request : Request) (world : World) :
    Memo → List Text → StateM σ (List (Except Failure (Option Text)))
  | _, [] => pure []
  | memo, name :: rest => do
    match ← (resolve sources names request world memo name).run with
    | .ok (text, memo) => return .ok text :: (← resolveEach names request world memo rest)
    | .error failure => return .error failure :: (← resolveEach names request world memo rest)

end

end JournalHerald.Message

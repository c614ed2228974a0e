import JournalHerald.Failure
import JournalHerald.Message.MissionSummary
import JournalHerald.Statistics.Criteria

/-!
# What a message draws on

A message is composed from four sources: the state of the world, a count of past events, the play time and
the open missions. A source may fail, and it may answer differently each time it is asked, so it acts on a
state.

* `Sources` are the four, over any type of state;
* `Sources.tallied` counts how often each of them is asked and keeps the criteria of the last count;
* `Sources.canned` always gives the same answers.
-/

namespace JournalHerald.Message

/-- The play time, over all sessions and in the present one. -/
structure Counters where
  sessions : Int := 0
  total : Duration := .zero
  /-- There is none between two sessions. -/
  current : Option Duration := none
  deriving DecidableEq, Repr, Inhabited

/-- An action on a state of type `σ` that may fail. -/
abbrev Action (σ α : Type) := ExceptT Failure (StateM σ) α

/-- The sources of a message. -/
structure Sources (σ : Type) where
  world : Action σ World
  count : Criteria → Action σ Value
  counters : Action σ Counters
  missions : Action σ (List Destination)

/-- How often each source has been asked. -/
structure Tally where
  world : Nat := 0
  count : Nat := 0
  counters : Nat := 0
  missions : Nat := 0
  /-- The criteria of the last count. -/
  criteria : Option Criteria := none
  deriving Repr, Inhabited

namespace Sources

/-- Note a question in the tally, then run an action on the rest of the state. -/
def noting {σ α : Type} (note : Tally → Tally) (action : Action σ α) : Action (Tally × σ) α :=
  ExceptT.mk fun (tally, s) =>
    let (answer, s) := action.run s
    (answer, note tally, s)

/-- The same sources, with a tally of the questions. -/
def tallied {σ : Type} (sources : Sources σ) : Sources (Tally × σ) where
  world := noting (fun t => { t with world := t.world + 1 }) sources.world
  count criteria :=
    noting (fun t => { t with count := t.count + 1, criteria := some criteria })
      (sources.count criteria)
  counters := noting (fun t => { t with counters := t.counters + 1 }) sources.counters
  missions := noting (fun t => { t with missions := t.missions + 1 }) sources.missions

/-- Sources that always give the same answers. -/
def canned (world : Except Failure World) (count : Except Failure Value) (counters : Counters)
    (missions : List Destination) : Sources Unit where
  world := ExceptT.mk (pure world)
  count _ := ExceptT.mk (pure count)
  counters := pure counters
  missions := pure missions

end Sources

/-- The whole number that a text denotes, white space around it aside. Too many digits are a fault of their
own, which counts even if the text goes on behind them. -/
def countOfText (t : Text) : Except Failure Int :=
  match Text.numeral? (Text.trimBoth Text.isWhiteSpace t) with
  | some n =>
    if Json.maxDigits < n.digits.length then .error (.oversizedCount n.digits.length)
    else if n.rest.isEmpty then .ok n.value
    else .error (.unreadableCount t)
  | none => .error (.unreadableCount t)

/-- The whole number that an answer to a count stands for: fractions are dropped, texts are read. -/
def wholeCount : Value → Except Failure Int
  | .int i => .ok i
  | .bool b => .ok (if b then 1 else 0)
  | .float .nan => .error .undefinedCount
  | .float x =>
    match x.toInt? with
    | some i => .ok i
    | none => .error .infiniteCount
  | .text t => countOfText t
  | _ => .error .notCount

/-- The number that a message shows for an answer to a count. A negative one counts as zero. -/
def shownCount (answer : Value) : Except Failure Int := do
  return max (← wholeCount answer) 0

end JournalHerald.Message

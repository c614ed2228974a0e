import JournalHerald.Chronicle.Tracker
import JournalHerald.Statistics.Criteria

/-!
# The history of events

How many events there have been in which contexts. The context of an event is its kind, the commander and, for
each further attribute, the event's own value if it has one and else that of the world. Values are compared by
their texts, trimmed and in lower case. Only the number of events in each context is kept.

* `Context.of` is the context of an event;
* `HistoryState.record` counts an event, `HistoryState.count` is how many events meet criteria,
  `HistoryState.sorted` are the contexts with their numbers in the order of rows.
-/

namespace JournalHerald

namespace Value

/-- The text of a value for comparisons: the identifier of a member of a catalogue, and else the plain form. -/
def comparedText : Value → Text
  | .ship s => s.identifier
  | .body b => b.identifier
  | .style s => s.color
  | v => v.display

/-- The text by which a value is compared, trimmed and in lower case, if anything is left of it. -/
def normalized (v : Value) : Option Text :=
  if v.isNull then none
  else
    let text := Text.trim v.comparedText
    if text = "" then none else some (Text.lowercase text)

end Value

namespace Chronicle

/-- Where and how an event happened. -/
structure Context where
  event : Option Text
  commander : Option Text
  starSystem : Option Text
  stationName : Option Text
  body : Option Text
  bodyType : Option Text
  ship : Option Text
  deriving DecidableEq, Repr

namespace Context

/-- The value of an attribute. -/
def get (c : Context) : Attribute → Option Text
  | .event => c.event
  | .commander => c.commander
  | .starSystem => c.starSystem
  | .stationName => c.stationName
  | .body => c.body
  | .bodyType => c.bodyType
  | .ship => c.ship

/-- The text of an event's own value for an attribute, or else of the world's. -/
def dimension (event : Event) (world : World) (a : Attribute) : Option Text :=
  (event.get a.name).normalized <|> (world.get a.name).normalized

/-- The context of an event in a state of the world. -/
def of (event : Event) (world : World) : Context where
  event := some (Text.lowercase event.kind)
  commander := (Value.ofText? world.commander).normalized
  starSystem := dimension event world .starSystem
  stationName := dimension event world .stationName
  body := dimension event world .body
  bodyType := dimension event world .bodyType
  ship := dimension event world .ship

/-- The context as a row, in the order of the attributes. -/
def row (c : Context) : List (Option Text) :=
  Attribute.all.map c.get

/-- The context has every text that is wanted. -/
def meets (wanted : List (Attribute × Option Text)) (c : Context) : Bool :=
  wanted.all fun w => c.get w.1 == w.2

/-- The order of rows: entry by entry, missing ones first, texts by their characters. -/
def rowBefore : List (Option Text) → List (Option Text) → Bool
  | [], _ => true
  | _ :: _, [] => false
  | a :: as, b :: bs =>
    if a = b then rowBefore as bs
    else
      match a, b with
      | none, _ => true
      | some _, none => false
      | some s, some t => Text.before s t

end Context

/-- The past events, as far as they can be counted. -/
structure HistoryState where
  /-- The distinct contexts, by their first events, each with the number of its events. -/
  rows : List (Context × Nat) := []
  deriving Repr, Inhabited

namespace HistoryState

/-- One more event in a context: in the row of the context if there is one, and in a new row if not. -/
def tally (context : Context) : List (Context × Nat) → List (Context × Nat)
  | [] => [(context, 1)]
  | (c, n) :: rest => if c = context then (c, n + 1) :: rest else (c, n) :: tally context rest

/-- Count an event in a state of the world. -/
def record (event : Event) (world : World) (state : HistoryState) : HistoryState :=
  ⟨tally (Context.of event world) state.rows⟩

/-- Count an event that has a kind, provided that the state of the world is known. -/
def process (world : Except Failure World) (event : Event) (state : HistoryState) :
    Step HistoryState :=
  if event.kind = "" then ⟨state, none⟩
  else
    match world with
    | .ok world => ⟨state.record event world, none⟩
    | .error failure => ⟨state, some failure⟩

/-- The texts that criteria want. -/
def wanted (criteria : Criteria) : List (Attribute × Option Text) :=
  criteria.map fun c => (c.1, c.2.normalized)

/-- How many events there are in the rows of some contexts. -/
def amount (p : Context → Bool) (rows : List (Context × Nat)) : Nat :=
  rows.foldr (fun row n => if p row.1 then row.2 + n else n) 0

@[simp] theorem amount_nil (p : Context → Bool) : amount p [] = 0 := rfl

theorem amount_cons (p : Context → Bool) (c : Context) (n : Nat) (rows : List (Context × Nat)) :
    amount p ((c, n) :: rows) = (if p c then n else 0) + amount p rows := by
  rw [amount, List.foldr_cons]
  cases p c <;> simp [amount]

/-- How many events meet the criteria. -/
def count (criteria : Criteria) (state : HistoryState) : Nat :=
  amount (Context.meets (wanted criteria)) state.rows

/-- The contexts with the numbers of their events, ordered by rows. -/
def sorted (state : HistoryState) : List (Context × Nat) :=
  state.rows.mergeSort fun a b => Context.rowBefore a.1.row b.1.row

end HistoryState

end Chronicle

end JournalHerald

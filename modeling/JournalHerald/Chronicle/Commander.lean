import JournalHerald.Chronicle.Tracker

/-!
# The commander

Who the commander is, told at the start of a game.
-/

namespace JournalHerald.Chronicle

/-- The identity of the commander. The values come from the journal unchecked. -/
structure CommanderState where
  id : Value := .null
  name : Value := .null
  deriving Repr, Inhabited

/-- Take the identity from an event that tells it. -/
def CommanderState.process (event : Event) (state : CommanderState) : Step CommanderState :=
  let taken (nameField : Text) : CommanderState :=
    { id := event.content.getD "FID" state.id, name := event.content.getD nameField state.name }
  match event.kind.string? with
  | some "Commander" => ⟨taken "Name", none⟩
  | some "LoadGame" => ⟨taken "Commander", none⟩
  | _ => ⟨state, none⟩

end JournalHerald.Chronicle

import JournalHerald.Proofs.Chronicle.Histogram

/-!
# Where the state of the world starts anew

What an event does not tell about the world is mostly kept as it was, so that the past shows in the state of
the world. It shows no longer once the events have told all of it: who the commander is and which ship it is,
as a loaded game does, and where the commander is, as a location or a jump does. Whether the commander is
docked is part of the latter, though the state of the world does not show it.

* `LoadsGame` and `Locates` are the events that tell all of one or the other;
* `SameIdentity` and `SameLocation` relate two chronicles that agree in it, and every event keeps them so;
* `world?_eq_of_mem` says that the past is forgotten after such events in any order, and
  `world?_eq_of_resync` is the start of a game, where one comes right after the other.
-/

namespace JournalHerald.Chronicle

/-! ### Events that leave nothing open -/

/-- The event tells the commander and the type of the ship. -/
structure LoadsGame (event : Event) : Prop where
  kind : event.kind = "LoadGame"
  commander : (event.content.get? "Commander").isSome = true
  ship : (event.content.get? "Ship").isSome = true

/-- The event tells the star system. What else belongs to the location, events of these kinds tell or
forget. -/
structure Locates (event : Event) : Prop where
  kind : event.kind = "Location" ∨ event.kind = "FSDJump"
  starSystem : (event.content.get? "StarSystem").isSome = true

variable {event : Event} {c c' : Chronicle}

theorem getD_eq_of_isSome {fields : Fields} {name : Text} (h : (fields.get? name).isSome = true)
    (default default' : Value) : fields.getD name default = fields.getD name default' := by
  obtain ⟨v, hv⟩ := Option.isSome_iff_exists.1 h
  simp only [Fields.getD, hv, Option.getD_some]

theorem CommanderState.name_process_of_loadsGame (h : LoadsGame event) (state state' : CommanderState) :
    (state.process event).state.name = (state'.process event).state.name := by
  simp only [CommanderState.process, Text.string?_eq_some_iff.2 h.kind]
  exact getD_eq_of_isSome h.commander ..

theorem ShipState.type_next_of_loadsGame (h : LoadsGame event) (state state' : ShipState) :
    (state.next event).type = (state'.next event).type := by
  obtain ⟨v, hv⟩ := Option.isSome_iff_exists.1 h.ship
  simp only [ShipState.next, Text.string?_eq_some_iff.2 h.kind, hv, Option.map_some, Option.getD_some]

theorem LocationState.next_of_locates (h : Locates event) (state state' : LocationState) :
    state.next event = state'.next event := by
  have hsystem := getD_eq_of_isSome h.starSystem state.starSystem state'.starSystem
  rcases h.kind with hkind | hkind <;>
    simp only [LocationState.next, Text.string?_eq_some_iff.2 hkind, LocationState.setSystem,
      LocationState.setBody, hsystem]

/-! ### Chronicles that agree -/

/-- Two chronicles have the same commander and the same type of ship. -/
structure SameIdentity (c c' : Chronicle) : Prop where
  name : c.commander.state.name = c'.commander.state.name
  type : c.ship.state.type = c'.ship.state.type

/-- Two chronicles have the same location, also where the state of the world does not show it. -/
def SameLocation (c c' : Chronicle) : Prop :=
  c.location.state = c'.location.state

theorem CommanderState.name_process_congr {state state' : CommanderState} (h : state.name = state'.name)
    (event : Event) : (state.process event).state.name = (state'.process event).state.name := by
  unfold CommanderState.process
  split <;> simp only [h]

theorem ShipState.type_next_congr {state state' : ShipState} (h : state.type = state'.type)
    (event : Event) : (state.next event).type = (state'.next event).type := by
  unfold ShipState.next
  split <;> simp only [h]

theorem SameIdentity.process (h : SameIdentity c c') (event : Event) :
    SameIdentity (c.process event).1 (c'.process event).1 where
  name := CommanderState.name_process_congr h.name event
  type := ShipState.type_next_congr h.type event

theorem SameLocation.process (h : SameLocation c c') (event : Event) :
    SameLocation (c.process event).1 (c'.process event).1 :=
  congrArg (LocationState.next event) h

theorem sameIdentity_of_loadsGame (h : LoadsGame event) (c c' : Chronicle) :
    SameIdentity (c.process event).1 (c'.process event).1 where
  name := CommanderState.name_process_of_loadsGame h ..
  type := ShipState.type_next_of_loadsGame h ..

theorem sameLocation_of_locates (h : Locates event) (c c' : Chronicle) :
    SameLocation (c.process event).1 (c'.process event).1 :=
  LocationState.next_of_locates h ..

theorem world?_eq_of_same (hidentity : SameIdentity c c') (hlocation : SameLocation c c') :
    c.world? = c'.world? := by
  have hlocation : c.location.state = c'.location.state := hlocation
  rw [world?, world?, hidentity.name, hidentity.type, hlocation]

/-! ### Runs -/

/-- Where every event keeps two chronicles related and one event relates any two, they are related after
that event, however they came to differ. -/
theorem processAll_of_mem {R : Chronicle → Chronicle → Prop} {events : List Event}
    (kept : ∀ (c c' : Chronicle) (e : Event), R c c' → R (c.process e).1 (c'.process e).1)
    (set : ∀ c c' : Chronicle, R (c.process event).1 (c'.process event).1) (hmem : event ∈ events)
    (c c' : Chronicle) : R (c.processAll events) (c'.processAll events) := by
  obtain ⟨before, after, rfl⟩ := List.append_of_mem hmem
  have hafter : ∀ c c', R c c' → R (c.processAll after) (c'.processAll after) := by
    clear hmem
    induction after with
    | nil => exact fun _ _ h => h
    | cons e after ih => exact fun c c' h => ih (c.process e).1 (c'.process e).1 (kept c c' e h)
  rw [processAll_append, processAll_append]
  exact hafter _ _ (set _ _)

/-- The state of the world does not depend on what came before, once a game has been loaded and the
commander has been located, in whatever order. -/
theorem world?_eq_of_mem {loading location : Event} {events : List Event} (hloads : LoadsGame loading)
    (hlocates : Locates location) (hloading : loading ∈ events) (hlocation : location ∈ events)
    (c c' : Chronicle) : (c.processAll events).world? = (c'.processAll events).world? :=
  world?_eq_of_same
    (processAll_of_mem (R := SameIdentity) (fun _ _ e h => h.process e) (sameIdentity_of_loadsGame hloads)
      hloading c c')
    (processAll_of_mem (R := SameLocation) (fun _ _ e h => h.process e) (sameLocation_of_locates hlocates)
      hlocation c c')

/-! ### Main statement -/

/-- **The state of the world starts anew with a game.** After a loaded game that tells the commander and the
ship, and a location that tells the star system, the state of the world is the same whatever came before, be
it known or not, and so it is after any further events. -/
theorem world?_eq_of_resync (past past' later : List Event) {loading location : Event}
    (hloading : loading.kind = "LoadGame") (hcommander : (loading.content.get? "Commander").isSome = true)
    (hship : (loading.content.get? "Ship").isSome = true) (hlocation : location.kind = "Location")
    (hsystem : (location.content.get? "StarSystem").isSome = true) :
    (empty.processAll (past ++ [loading, location] ++ later)).world? =
      (empty.processAll (past' ++ [loading, location] ++ later)).world? := by
  have hloads : LoadsGame loading := ⟨hloading, hcommander, hship⟩
  have hlocates : Locates location := ⟨.inl hlocation, hsystem⟩
  have hfirst : loading ∈ [loading, location] ++ later := by simp
  have hsecond : location ∈ [loading, location] ++ later := by simp
  have h := world?_eq_of_mem hloads hlocates hfirst hsecond (empty.processAll past) (empty.processAll past')
  rwa [← processAll_append, ← processAll_append, ← List.append_assoc, ← List.append_assoc] at h

/-- A game is loaded that tells all of it. -/
def loadingShip : Event :=
  .ofEntry [("event", .text "LoadGame"), ("Commander", .text "Ada"), ("Ship", .text "viper")] true none

/-- The commander is located in space. -/
def locating : Event :=
  .ofEntry [("event", .text "Location"), ("StarSystem", .text "Diso")] true none

/-- A docking from before the start leaves no trace, though a later event depends on it. -/
theorem world?_eq_of_resync_docking :
    let leaving : Event := .ofEntry [("event", .text "LeaveBody")] false none
    (empty.processAll ([loading, docking] ++ [loadingShip, locating] ++ [leaving])).world? =
      (empty.processAll ([] ++ [loadingShip, locating] ++ [leaving])).world? :=
  world?_eq_of_resync [loading, docking] [] _ (by decide) (by decide) (by decide) (by decide) (by decide)

end JournalHerald.Chronicle

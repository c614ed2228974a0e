import JournalHerald.Proofs.Chronicle.Histogram
import JournalHerald.Proofs.Chronicle.OpenMissions

/-!
# When the state of the world is known

Three trackers take over values from the journal as they are, and only when the state of the world is put
together are they checked. So a value that is no text makes the state of the world unknown, until another
event replaces it, and no event counts in the meantime.

* `World.check_eq_ok_iff` takes the check of a state of the world apart;
* `storedFields` are the fields that an event hands over;
* `TellsTexts` says that these are texts, and `world?_of_tellsTexts` that nothing else is needed;
* `count_processAll_of_not_isTextual` is what a name that is no text does to the events after it.
-/

namespace JournalHerald

namespace Value

/-- The value can stand in the state of the world: it spells a text, or it is null. -/
def IsTextual (v : Value) : Prop :=
  v.isNull = true ∨ v.spelled?.isSome = true

instance : DecidablePred IsTextual := fun _ => inferInstanceAs (Decidable (_ ∨ _))

theorem isTextual_null : IsTextual .null := .inl rfl

theorem isTextual_body (b : BodyType) : IsTextual (.body b) := .inr rfl

theorem IsTextual.orNull {v : Value} {p : Prop} [Decidable p] (h : v.IsTextual) :
    (if p then v else .null).IsTextual := by
  split
  · exact h
  · exact isTextual_null

theorem IsTextual.toBody {v : Value} (h : v.IsTextual) : v.toBody.IsTextual := by
  unfold Value.toBody
  split
  · cases BodyType.ofIdentifier? _ <;> exact .inr rfl
  · exact h

theorem IsTextual.toShip {v : Value} (h : v.IsTextual) : v.toShip.IsTextual := by
  unfold Value.toShip
  split
  · cases ShipType.ofIdentifier? _ <;> exact .inr rfl
  · exact h

end Value

/-! ### The check -/

namespace Schema.Check

variable {v : Value}

theorem exists_optionalText (h : v.IsTextual) : ∃ t, optionalText v = .ok t := by
  unfold optionalText
  split
  · exact ⟨_, rfl⟩
  · obtain hnull | hspelled := h
    · cases v <;> simp_all [Value.isNull]
    · obtain ⟨t, ht⟩ := Option.isSome_iff_exists.1 hspelled
      simp [text, ht, Except.map]

theorem exists_ship (h : v.IsTextual) : ∃ s, ship v = .ok s := by
  unfold ship
  split
  · exact ⟨_, rfl⟩
  · exact ⟨_, rfl⟩
  · obtain hnull | hspelled := h
    · cases v <;> simp_all [Value.isNull]
    · obtain ⟨t, ht⟩ := Option.isSome_iff_exists.1 hspelled
      simp [ht]

theorem exists_body (h : v.IsTextual) : ∃ b, body v = .ok b := by
  unfold body
  split
  · exact ⟨_, rfl⟩
  · exact ⟨_, rfl⟩
  · obtain hnull | hspelled := h
    · cases v <;> simp_all [Value.isNull]
    · obtain ⟨t, ht⟩ := Option.isSome_iff_exists.1 hspelled
      simp [ht]

theorem isTextual_of_optionalText {t : Option Text} (h : optionalText v = .ok t) : v.IsTextual := by
  unfold optionalText at h
  split at h
  · exact Value.isTextual_null
  · cases htext : text v with
    | error problems =>
      rw [htext] at h
      cases h
    | ok s => exact .inr (by rw [text_eq_ok.1 htext]; rfl)

end Schema.Check

section World

variable {commander ship starSystem stationName body bodyType : Value} {w : World}

/-- A state of the world has passed the check of each of its values. -/
theorem World.check_eq_ok_iff :
    World.check commander ship starSystem stationName body bodyType = .ok w ↔
      Schema.Check.optionalText commander = .ok w.commander ∧ Schema.Check.ship ship = .ok w.ship ∧
      Schema.Check.optionalText starSystem = .ok w.starSystem ∧
      Schema.Check.optionalText stationName = .ok w.stationName ∧
      Schema.Check.optionalText body = .ok w.body ∧ Schema.Check.body bodyType = .ok w.bodyType := by
  constructor
  · intro h
    obtain ⟨_, _, h₅, htype, rfl⟩ := Schema.Check.ap_eq_ok h
    obtain ⟨_, _, h₄, hbody, rfl⟩ := Schema.Check.ap_eq_ok h₅
    obtain ⟨_, _, h₃, hstation, rfl⟩ := Schema.Check.ap_eq_ok h₄
    obtain ⟨_, _, h₂, hsystem, rfl⟩ := Schema.Check.ap_eq_ok h₃
    obtain ⟨_, _, h₁, hship, rfl⟩ := Schema.Check.ap_eq_ok h₂
    obtain ⟨_, hcommander, rfl⟩ := Schema.Check.map_eq_ok h₁
    rw [Schema.Check.within_eq_ok] at hcommander hship hsystem hstation hbody htype
    exact ⟨hcommander, hship, hsystem, hstation, hbody, htype⟩
  · rintro ⟨hcommander, hship, hsystem, hstation, hbody, htype⟩
    rw [World.check, hcommander, hship, hsystem, hstation, hbody, htype]
    rfl

theorem World.exists_check (hcommander : commander.IsTextual) (hship : ship.IsTextual)
    (hsystem : starSystem.IsTextual) (hstation : stationName.IsTextual) (hbody : body.IsTextual)
    (htype : bodyType.IsTextual) :
    ∃ w, World.check commander ship starSystem stationName body bodyType = .ok w := by
  obtain ⟨c, hcommander⟩ := Schema.Check.exists_optionalText hcommander
  obtain ⟨s, hship⟩ := Schema.Check.exists_ship hship
  obtain ⟨y, hsystem⟩ := Schema.Check.exists_optionalText hsystem
  obtain ⟨n, hstation⟩ := Schema.Check.exists_optionalText hstation
  obtain ⟨b, hbody⟩ := Schema.Check.exists_optionalText hbody
  obtain ⟨t, htype⟩ := Schema.Check.exists_body htype
  exact ⟨⟨c, s, y, n, b, t⟩, World.check_eq_ok_iff.2 ⟨hcommander, hship, hsystem, hstation, hbody, htype⟩⟩

/-- No state of the world has a commander who is not a text. -/
theorem World.isTextual_of_check (h : World.check commander ship starSystem stationName body bodyType = .ok w) :
    commander.IsTextual :=
  Schema.Check.isTextual_of_optionalText (World.check_eq_ok_iff.1 h).1

end World

namespace Chronicle

/-! ### What an event hands over -/

/-- The fields that an event of a kind hands over to the state of the world. -/
def storedFields (event : Event) : List Text :=
  match event.kind.string? with
  | some "Commander" => ["Name"]
  | some "LoadGame" => ["Commander", "Ship"]
  | some "Loadout" => ["Ship"]
  | some "ShipyardNew" | some "ShipyardSwap" => ["ShipType"]
  | some "Location" => ["StarSystem", "StationName", "Body", "BodyType"]
  | some "FSDJump" | some "SupercruiseExit" => ["StarSystem", "Body", "BodyType"]
  | some "SupercruiseEntry" => ["StarSystem"]
  | some "Docked" => ["StarSystem", "StationName"]
  | some "ApproachSettlement" => ["Name", "BodyName"]
  | some "ApproachBody" | some "Touchdown" => ["Body"]
  | _ => []

/-- The fields that the event hands over are texts or null, as far as it has them. -/
def TellsTexts (event : Event) : Prop :=
  ∀ name ∈ storedFields event, (event.content.getD name .null).IsTextual

instance : DecidablePred TellsTexts := fun event =>
  inferInstanceAs (Decidable (∀ name ∈ storedFields event, (event.content.getD name .null).IsTextual))

variable {event : Event}

theorem TellsTexts.getD {name : Text} {other : Value} (h : TellsTexts event)
    (hname : name ∈ storedFields event) (hother : other.IsTextual) : (event.content.getD name other).IsTextual := by
  have hfield := h name hname
  unfold Fields.getD at hfield ⊢
  cases hvalue : event.content.get? name with
  | none => exact hother
  | some v => rwa [hvalue] at hfield

theorem TellsTexts.of_get? {name : Text} {v : Value} (h : TellsTexts event)
    (hname : name ∈ storedFields event) (hv : event.content.get? name = some v) : v.IsTextual := by
  have hfield := h.getD hname Value.isTextual_null
  rwa [Fields.getD, hv] at hfield

/-- The name can stand in the state of the world. -/
def CommanderState.IsKnown (state : CommanderState) : Prop :=
  state.name.IsTextual

theorem CommanderState.IsKnown.process {state : CommanderState} (h : state.IsKnown) (he : TellsTexts event) :
    (state.process event).state.IsKnown := by
  unfold CommanderState.process CommanderState.IsKnown
  split
  · next hkind => exact he.getD (by simp [storedFields, hkind]) h
  · next hkind => exact he.getD (by simp [storedFields, hkind]) h
  · exact h

/-- The type of the ship can stand in the state of the world. -/
def ShipState.IsKnown (state : ShipState) : Prop :=
  state.type.IsTextual

theorem ShipState.IsKnown.next {state : ShipState} (h : state.IsKnown) (he : TellsTexts event) :
    (state.next event).IsKnown := by
  have hship (hname : Text.ofString "Ship" ∈ storedFields event) :
      (((event.content.get? "Ship").map Value.toShip).getD state.type).IsTextual := by
    cases hvalue : event.content.get? "Ship" with
    | none => exact h
    | some v => exact (he.of_get? hname hvalue).toShip
  unfold ShipState.next ShipState.IsKnown
  split
  · next hkind => exact hship (by simp [storedFields, hkind])
  · next hkind => exact hship (by simp [storedFields, hkind])
  · next hkind => exact (he "ShipType" (by simp [storedFields, hkind])).toShip
  · next hkind => exact (he "ShipType" (by simp [storedFields, hkind])).toShip
  · exact h
  · exact h

/-- The four values of a location can stand in the state of the world. -/
structure LocationState.IsKnown (state : LocationState) : Prop where
  starSystem : state.starSystem.IsTextual
  stationName : state.stationName.IsTextual
  body : state.body.IsTextual
  bodyType : state.bodyType.IsTextual

namespace LocationState.IsKnown

variable {state : LocationState}

theorem setSystem (h : state.IsKnown) (he : TellsTexts event)
    (hname : Text.ofString "StarSystem" ∈ storedFields event) : (state.setSystem event).IsKnown :=
  { h with starSystem := he.getD hname h.starSystem }

theorem setBody (h : state.IsKnown) (he : TellsTexts event)
    (hbody : Text.ofString "Body" ∈ storedFields event)
    (htype : Text.ofString "BodyType" ∈ storedFields event) : (state.setBody event).IsKnown := by
  simp only [LocationState.setBody]
  split
  · exact { h with
      body := he.getD hbody Value.isTextual_null
      bodyType := (he.getD htype Value.isTextual_null).toBody }
  · exact { h with body := Value.isTextual_null, bodyType := Value.isTextual_null }

theorem next (h : state.IsKnown) (he : TellsTexts event) : (state.next event).IsKnown := by
  unfold LocationState.next
  -- the kinds of events, in the order in which `LocationState.next` lists them
  split
  · next hkind =>
    have hsystem := h.setSystem he (by simp [storedFields, hkind])
    have hstation : (event.content.getD "StationName" .null).IsTextual :=
      he.getD (by simp [storedFields, hkind]) Value.isTextual_null
    exact setBody { hsystem with stationName := hstation.orNull } he (by simp [storedFields, hkind])
      (by simp [storedFields, hkind])
  · next hkind =>
    have hsystem := h.setSystem he (by simp [storedFields, hkind])
    exact setBody { hsystem with stationName := Value.isTextual_null } he (by simp [storedFields, hkind])
      (by simp [storedFields, hkind])
  · next hkind =>
    have hsystem := h.setSystem he (by simp [storedFields, hkind])
    exact { hsystem with
      stationName := Value.isTextual_null, body := Value.isTextual_null, bodyType := Value.isTextual_null }
  · next hkind =>
    exact (h.setSystem he (by simp [storedFields, hkind])).setBody he (by simp [storedFields, hkind])
      (by simp [storedFields, hkind])
  · next hkind =>
    have hsystem := h.setSystem he (by simp [storedFields, hkind])
    exact { hsystem with stationName := he.getD (by simp [storedFields, hkind]) h.stationName }
  · exact ⟨h.starSystem, h.stationName, h.body, h.bodyType⟩
  · next hkind =>
    exact { h with
      stationName := he.getD (by simp [storedFields, hkind]) h.stationName
      body := he.getD (by simp [storedFields, hkind]) h.body
      bodyType := Value.isTextual_body .planet }
  · next hkind =>
    exact { h with
      body := he.getD (by simp [storedFields, hkind]) h.body
      bodyType := Value.isTextual_body .planet }
  · next hkind =>
    exact { h with
      body := he.getD (by simp [storedFields, hkind]) h.body
      bodyType := Value.isTextual_body .planet }
  · exact { h with
      stationName := h.stationName.orNull, body := Value.isTextual_null, bodyType := Value.isTextual_null }
  · exact h

end LocationState.IsKnown

/-! ### Runs -/

/-- The six values that the state of the world is put together from pass their checks. -/
structure KnowsWorld (c : Chronicle) : Prop where
  commander : c.commander.state.IsKnown
  ship : c.ship.state.IsKnown
  location : c.location.state.IsKnown

variable {c : Chronicle} {event : Event}

theorem knowsWorld_empty : KnowsWorld empty where
  commander := Value.isTextual_null
  ship := Value.isTextual_null
  location := ⟨Value.isTextual_null, Value.isTextual_null, Value.isTextual_null, Value.isTextual_null⟩

theorem KnowsWorld.exists_world? (h : KnowsWorld c) : ∃ w, c.world? = .ok w := by
  obtain ⟨w, hw⟩ := World.exists_check h.commander h.ship h.location.starSystem h.location.stationName
    h.location.body h.location.bodyType
  exact ⟨w, by rw [world?, hw]⟩

theorem KnowsWorld.processFacts (h : KnowsWorld c) (he : TellsTexts event) :
    KnowsWorld (c.processFacts event).1 where
  commander := h.commander.process he
  ship := h.ship.next he
  location := h.location.next he

theorem KnowsWorld.process (h : KnowsWorld c) (he : TellsTexts event) : KnowsWorld (c.process event).1 :=
  let hfacts := h.processFacts he
  ⟨hfacts.commander, hfacts.ship, hfacts.location⟩

theorem KnowsWorld.processAll {events : List Event} (h : KnowsWorld c)
    (he : ∀ event ∈ events, TellsTexts event) :
    KnowsWorld (c.processAll events) := by
  induction events generalizing c with
  | nil => exact h
  | cons event events ih =>
    exact ih (h.process (he event List.mem_cons_self)) fun e hmem => he e (List.mem_cons_of_mem event hmem)

/-- Where the world is known, every event counts that has a kind. -/
theorem KnowsWorld.length_occurrences {events : List Event} (h : KnowsWorld c)
    (he : ∀ event ∈ events, TellsTexts event) :
    (c.occurrences events).length = events.countP fun e : Event => e.kind ≠ "" := by
  induction events generalizing c with
  | nil => rfl
  | cons event events ih =>
    have hknows := h.process (he event List.mem_cons_self)
    obtain ⟨w, hw⟩ := hknows.exists_world?
    have hrest := ih hknows fun e hmem => he e (List.mem_cons_of_mem event hmem)
    rw [occurrences, List.length_append, hrest, occurrence?, hw]
    by_cases hkind : event.kind = ""
    · simp [hkind]
    · simp [hkind, Nat.add_comm]

/-- The state of the world is known after any events that tell texts, and every one of these events counts
that has a kind. -/
theorem world?_of_tellsTexts (events : List Event) (h : ∀ event ∈ events, TellsTexts event) :
    (∃ w, (empty.processAll events).world? = .ok w) ∧
      (empty.processAll events).count [] = events.countP fun e : Event => e.kind ≠ "" := by
  refine ⟨(knowsWorld_empty.processAll h).exists_world?, ?_⟩
  have hall (context : Context) : Context.meets (HistoryState.wanted []) context = true := rfl
  rw [← knowsWorld_empty.length_occurrences h, Chronicle.count, HistoryState.count,
    (histogram_empty events).amount_eq, List.countP_eq_length.2 fun context _ => hall context,
    List.length_map]

/-- The commander has a name, and the docking counts. -/
theorem world?_of_tellsTexts_docking : (∀ event ∈ [loading, docking], TellsTexts event) ∧
    (∃ w, (empty.processAll [loading, docking]).world? = .ok w) ∧
      (empty.processAll [loading, docking]).count [] = 2 := by
  have htexts : ∀ event ∈ [loading, docking], TellsTexts event := by decide
  obtain ⟨hworld, hcount⟩ := world?_of_tellsTexts [loading, docking] htexts
  exact ⟨htexts, hworld, hcount.trans (by decide)⟩

/-! ### A name that is no text -/

theorem CommanderState.process_of_other {state : CommanderState} (hcommander : event.kind ≠ "Commander")
    (hload : event.kind ≠ "LoadGame") : state.process event = ⟨state, none⟩ := by
  unfold CommanderState.process
  split
  · exact absurd (Text.string?_eq_some_iff.1 ‹_›) hcommander
  · exact absurd (Text.string?_eq_some_iff.1 ‹_›) hload
  · rfl

theorem exists_error_world? (h : ¬c.commander.state.name.IsTextual) :
    ∃ failure, c.world? = .error failure := by
  unfold world?
  split
  · exact absurd (World.isTextual_of_check ‹_›) h
  · exact ⟨_, rfl⟩

/-- As long as no event tells who the commander is, a name that is no text keeps the state of the world
unknown, and nothing counts. -/
theorem count_processAll_of_not_isTextual {events : List Event} (h : ¬c.commander.state.name.IsTextual)
    (hevents : ∀ e ∈ events, e.kind ≠ "Commander" ∧ e.kind ≠ "LoadGame") :
    (∃ failure, (c.processAll events).world? = .error failure) ∧
      ∀ criteria, (c.processAll events).count criteria = c.count criteria := by
  induction events generalizing c with
  | nil => exact ⟨exists_error_world? h, fun _ => rfl⟩
  | cons event events ih =>
    obtain ⟨hcommander, hload⟩ := hevents event List.mem_cons_self
    have hnext : ¬(c.process event).1.commander.state.name.IsTextual := by
      have hstep : c.commander.state.process event = ⟨c.commander.state, none⟩ :=
        CommanderState.process_of_other hcommander hload
      have hsame : (c.process event).1.commander.state = c.commander.state :=
        congrArg Step.state hstep
      rwa [hsame]
    have hoccurs : c.occurrence? event = none := by
      obtain ⟨failure, hfailure⟩ := exists_error_world? hnext
      rw [occurrence?, hfailure, ite_self]
    have hrows : (c.process event).1.history.state.rows = c.history.state.rows := by
      rw [rows_process, hoccurs]
    obtain ⟨hworld, hcount⟩ := ih (c := (c.process event).1) hnext
      fun e he => hevents e (List.mem_cons_of_mem event he)
    refine ⟨hworld, fun criteria => (hcount criteria).trans ?_⟩
    rw [Chronicle.count, Chronicle.count, HistoryState.count, HistoryState.count, hrows]

/-- A game is loaded, and the commander is a number. -/
def loadingNumber : Event :=
  .ofEntry [("event", .text "LoadGame"), ("Commander", .int 5)] false none

/-- The number makes the state of the world unknown, and it stays so: the docking does not count. -/
theorem world?_error_loadingNumber :
    (empty.processAll [loadingNumber]).world? = .error (.invalid [⟨["Commander"], .notText⟩]) ∧
      (empty.processAll [loadingNumber, docking]).world? = .error (.invalid [⟨["Commander"], .notText⟩]) ∧
      (empty.processAll [loadingNumber, docking]).count [(.event, .text "Docked")] = 0 := by
  have hnumber : ¬(empty.processAll [loadingNumber]).commander.state.name.IsTextual := by decide
  have hdocking : ∀ e ∈ [docking], e.kind ≠ "Commander" ∧ e.kind ≠ "LoadGame" := by decide
  obtain ⟨-, hcount⟩ := count_processAll_of_not_isTextual hnumber hdocking
  exact ⟨rfl, rfl, hcount _⟩

end Chronicle

end JournalHerald

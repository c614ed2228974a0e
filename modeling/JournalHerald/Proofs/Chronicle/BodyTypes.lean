import JournalHerald.Proofs.Chronicle.KnownWorld

/-!
# Bodies and their types

The tracker of the location writes the nearest body and its type in eight kinds of events, where some fall back on
the body that it had before. No body is left without a type, and deep space is no body at all. To see that, the
tracker compares the type with the catalogue's member and with one spelling of it. The other spellings need not
be compared, since each of them is replaced by the member before any tracker sees the event.

* `FromJournal` says that an event has been read so, `toBody_bodyType` what that does to the type;
* `LocationState.IsTyped` is what every event preserves;
* `body_typed` is the main result.
-/

namespace JournalHerald

/-! ### Types that have been read -/

theorem Value.toBody_toBody (v : Value) : v.toBody.toBody = v.toBody := by
  cases v with
  | text s =>
    cases h : BodyType.ofIdentifier? s <;> simp [Value.toBody, h]
  | _ => rfl

theorem Fields.get?_understood (fields : Fields) (name : Text) :
    (Fields.understood fields).get? name = (fields.get? name).map (Value.understood name) := by
  induction fields with
  | nil => rfl
  | cons f fields ih =>
    unfold Fields.get? Fields.understood at ih ⊢
    by_cases hname : f.1 = name
    · simp [hname]
    · simpa [hname] using ih

theorem Value.understood_bodyType (v : Value) : v.understood "BodyType" = v.toBody :=
  rfl

namespace Chronicle

/-- The event has been made from an entry of the journal. -/
def FromJournal (event : Event) : Prop :=
  ∃ entry : Fields, event.content = Fields.understood entry

theorem fromJournal_ofEntry (entry : Fields) (historic : Bool) (filename : Option Text) :
    FromJournal (.ofEntry entry historic filename) :=
  ⟨entry, rfl⟩

section Steps

variable {event : Event} {state : LocationState}

/-- The type of the body is the catalogue's member, if the catalogue has it. -/
theorem FromJournal.toBody_bodyType (h : FromJournal event) :
    (event.content.getD "BodyType" .null).toBody = event.content.getD "BodyType" .null := by
  obtain ⟨entry, hentry⟩ := h
  rw [hentry, Fields.getD, Fields.get?_understood]
  cases entry.get? "BodyType" with
  | none => rfl
  | some v =>
    rw [Option.map_some, Option.getD_some, Value.understood_bodyType]
    exact v.toBody_toBody

/-! ### What an event preserves -/

/-- The type of the nearest body is neither deep space nor a spelling of it, and there is no body without a
type. -/
structure LocationState.IsTyped (state : LocationState) : Prop where
  notNull : state.bodyType.toBody ≠ .body .null
  untyped : state.bodyType = .null → state.body = .null

theorem LocationState.isTyped_none (h : state.body = .null) (htype : state.bodyType = .null) : state.IsTyped where
  notNull := by
    rw [htype]
    nofun
  untyped _ := h

theorem LocationState.isTyped_planet (h : state.bodyType = .body .planet) : state.IsTyped where
  notNull := by
    rw [h]
    nofun
  untyped hnone := by
    rw [h] at hnone
    cases hnone

/-- Where a body is told, its type is told, and is not deep space. -/
theorem LocationState.isTyped_setBody (h : FromJournal event) (state : LocationState) :
    (state.setBody event).IsTyped := by
  have hmember := h.toBody_bodyType
  simp only [LocationState.setBody]
  split
  · next hnames =>
    -- a type that names a body is neither of the two values in question
    rw [hmember]
    constructor
    · intro hnull
      rw [← hmember, hnull] at hnames
      cases hnames
    · intro hnone
      have hnull : event.content.getD "BodyType" .null = .null := hnone
      rw [hnull] at hnames
      cases hnames
  · exact isTyped_none rfl rfl

theorem LocationState.IsTyped.next (h : state.IsTyped) (hevent : FromJournal event) : (state.next event).IsTyped := by
  unfold LocationState.next
  -- the kinds of events, in the order in which `LocationState.next` lists them
  split
  · exact isTyped_setBody hevent _
  · exact isTyped_setBody hevent _
  · exact isTyped_none rfl rfl
  · exact isTyped_setBody hevent _
  · exact ⟨h.notNull, h.untyped⟩
  · exact ⟨h.notNull, h.untyped⟩
  · exact isTyped_planet rfl
  · exact isTyped_planet rfl
  · exact isTyped_planet rfl
  · exact isTyped_none rfl rfl
  · exact h

end Steps

/-! ### Runs -/

/-- The location after events. -/
def LocationState.after (events : List Event) (state : LocationState) : LocationState :=
  events.foldl (fun state event => (state.process event).state) state

section Runs

variable {events : List Event}

theorem LocationState.IsTyped.after {state : LocationState} (h : state.IsTyped)
    (hevents : ∀ event ∈ events, FromJournal event) : (state.after events).IsTyped := by
  induction events generalizing state with
  | nil => exact h
  | cons event events ih =>
    obtain ⟨hevent, hevents⟩ := List.forall_mem_cons.1 hevents
    exact ih (h.next hevent) hevents

/-- The chronicle's location is that of the tracker alone. -/
theorem location_processAll (events : List Event) (c : Chronicle) :
    (c.processAll events).location.state = c.location.state.after events := by
  induction events generalizing c with
  | nil => rfl
  | cons event events ih => exact ih (c.process event).1

end Runs

end Chronicle

/-! ### The state of the world -/

/-- What passes for a type of body is this type as a value, unless it is a text. -/
theorem Schema.Check.eq_of_body {v : Value} {type : Option (Listed BodyType)} (h : Schema.Check.body v = .ok type) :
    (type = none → v = .null) ∧ ∀ b, type = some (.known b) → v = .body b := by
  unfold Schema.Check.body at h
  split at h
  · cases h
    exact ⟨fun _ => rfl, nofun⟩
  · cases h
    refine ⟨nofun, ?_⟩
    rintro b ⟨⟩
    rfl
  · split at h
    · cases h
      exact ⟨nofun, nofun⟩
    · cases h

namespace Chronicle

theorem LocationState.IsTyped.world {c : Chronicle} {w : World} (h : c.location.state.IsTyped)
    (hworld : c.world? = .ok w) : w.bodyType ≠ some (.known .null) ∧ (w.bodyType = none → w.body = none) := by
  have hcheck : World.check c.commander.state.name c.ship.state.type c.location.state.starSystem
      c.location.state.stationName c.location.state.body c.location.state.bodyType = .ok w := by
    unfold world? at hworld
    split at hworld
    · next hcheck =>
      cases hworld
      exact hcheck
    · cases hworld
  obtain ⟨-, -, -, -, hbody, htype⟩ := World.check_eq_ok_iff.1 hcheck
  obtain ⟨hnone, hknown⟩ := Schema.Check.eq_of_body htype
  refine ⟨fun hnull => h.notNull ?_, fun huntyped => ?_⟩
  · rw [hknown .null hnull]
    rfl
  · rw [Schema.Check.eq_spelled_of_optionalText hbody, h.untyped (hnone huntyped)]
    rfl

/-- **Whatever the journal tells, there is no body without its type, and the type is never that of deep space,**
neither in the location nor in a state of the world. -/
theorem body_typed {events : List Event} (hevents : ∀ event ∈ events, FromJournal event) :
    let state := LocationState.after events {}
    (state.bodyType.toBody ≠ .body .null ∧ (state.bodyType = .null → state.body = .null)) ∧
    (empty.processAll events).location.state = state ∧
    ∀ w, (empty.processAll events).world? = .ok w →
      w.bodyType ≠ some (.known .null) ∧ (w.bodyType = none → w.body = none) := by
  have hstart : LocationState.IsTyped {} := LocationState.isTyped_none rfl rfl
  have htyped := hstart.after hevents
  have hlocation := location_processAll events empty
  refine ⟨⟨htyped.notNull, htyped.untyped⟩, hlocation, fun w hworld => ?_⟩
  exact LocationState.IsTyped.world (hlocation ▸ htyped) hworld

/-- A jump leads to deep space, which the entry spells in its own way, and then the ship comes to a planet, leaves
it and stops at a ring. -/
def travelling : List Event :=
  [.ofEntry [("event", .text "FSDJump"), ("Body", .text "Diso"), ("BodyType", .text "NULL")] false none,
   .ofEntry [("event", .text "ApproachBody"), ("Body", .text "Diso 5")] false none,
   .ofEntry [("event", .text "LeaveBody")] false none,
   .ofEntry [("event", .text "SupercruiseExit"), ("Body", .text "Diso 5 A Ring"),
     ("bodytype", .text "Null"), ("BodyType", .text "planetaryring")] false none]

theorem body_typed_travelling :
    let w : World := { body := some "Diso 5 A Ring", bodyType := some (.known .planetaryRing) }
    (empty.processAll (travelling.take 1)).world? = .ok {} ∧ (empty.processAll travelling).world? = .ok w ∧
      w.bodyType ≠ some (.known .null) ∧ (w.bodyType = none → w.body = none) := by
  have hevents : ∀ event ∈ travelling, FromJournal event := by
    simp [travelling, fromJournal_ofEntry]
  obtain ⟨-, -, hworld⟩ := body_typed hevents
  exact ⟨rfl, rfl, hworld _ rfl⟩

/-- A tracker that saw the spelling itself would take deep space for a body. -/
example :
    let jump : Event := ⟨[("event", .text "FSDJump"), ("BodyType", .text "NULL")], false, none⟩
    (LocationState.after [jump] {}).bodyType.toBody = .body .null :=
  rfl

end Chronicle

end JournalHerald

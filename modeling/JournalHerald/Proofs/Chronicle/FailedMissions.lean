import JournalHerald.Proofs.Chronicle.Independence
import JournalHerald.Proofs.Chronicle.KnownWorld

/-!
# Missions that fail

Two kinds of events fail for the missions: a list of all open missions that is no list of objects, and
an acceptance with a field that is no text. Whether an event fails depends on its fields alone, not on
the missions that are open (`Malformed`). A malformed list changes nothing. A malformed acceptance has
already closed the mission of its number when its fields are checked, so a mission that is accepted
again with such fields is lost (`openMissions_of_malformed`).

* `TellsMission` and `ListsObjects` are what the two kinds of events need;
* `nodup_ids_processAll` says that open missions differ in their numbers, also after failures.
-/

namespace JournalHerald

/-! ### Checks that fail -/

namespace Schema.Check

theorem exists_optionalText_iff {v : Value} : (∃ t, optionalText v = .ok t) ↔ v.IsTextual :=
  ⟨fun ⟨_, h⟩ => isTextual_of_optionalText h, exists_optionalText⟩

end Schema.Check

namespace Chronicle

open Schema.Check

/-! ### Well-formed events -/

/-- The fields of an acceptance that a mission takes over as texts, its name aside. -/
def optionalFields : List Text :=
  ["LocalisedName", "Faction", "Expiry", "DestinationSystem", "DestinationStation"]

/-- The fields of an acceptance can stand in a mission: the name is a text, the others may be null. -/
def TellsMission (content : Fields) : Prop :=
  (content.getD "Name" (.text "Unknown")).spelled?.isSome = true ∧
    ∀ field ∈ optionalFields, (content.getD field .null).IsTextual

instance : DecidablePred TellsMission := fun _ => inferInstanceAs (Decidable (_ ∧ _))

/-- The value lists objects. An empty text or object lists none. -/
def ListsObjects : Value → Prop
  | .list items => ∀ item ∈ items, ∃ fields, item = .object fields
  | .object fields => fields = []
  | .text s => s = []
  | _ => False

/-- The event cannot be digested by the missions. -/
def Malformed (event : Event) : Prop :=
  (event.kind = "Missions" ∧ ¬ListsObjects (event.content.getD "Active" (.list []))) ∨
    ((∃ id, Accepts id event) ∧ ¬TellsMission event.content)

/-- The check of an acceptance looks at these fields only. -/
theorem exists_check_iff {id : Int} {content : Fields} :
    (∃ m, Mission.check id content = .ok m) ↔ TellsMission content := by
  simp only [Mission.check, exists_ap_iff, exists_map_iff, exists_within_iff, exists_text_iff,
    exists_optionalText_iff, TellsMission, optionalFields, List.forall_mem_cons, and_assoc,
    List.not_mem_nil, false_imp_iff, implies_true, and_true]

theorem isSome_mapM_iff {α β : Type} {f : α → Option β} {items : List α} :
    (items.mapM f).isSome = true ↔ ∀ item ∈ items, (f item).isSome = true := by
  induction items with
  | nil => simp
  | cons item items ih =>
    rw [List.mapM_cons, List.forall_mem_cons, ← ih]
    cases f item <;> cases items.mapM f <;> simp

theorem isSome_listedIds?_iff {v : Value} :
    (MissionState.listedIds? v).isSome = true ↔ ListsObjects v := by
  cases v with
  | list items =>
    simp only [MissionState.listedIds?, ListsObjects, isSome_mapM_iff]
    refine forall₂_congr fun item _ => ?_
    cases item <;> simp
  | object fields => cases fields <;> simp [MissionState.listedIds?, ListsObjects]
  | text s => cases s <;> simp [MissionState.listedIds?, ListsObjects]
  | _ => simp [MissionState.listedIds?, ListsObjects]

/-! ### One event -/

section

variable {event : Event} {state : MissionState}

theorem not_accepts_of_kind_ne (h : event.kind ≠ "MissionAccepted") (id : Int) :
    ¬Accepts id event :=
  fun haccepts => h haccepts.1

theorem process_missions (h : event.kind = "Missions") :
    MissionState.process event state =
      match MissionState.listedIds? (event.content.getD "Active" (.list [])) with
      | some ids => ⟨⟨state.active.filter fun m => ids.any fun i => i.equalsInt m.id⟩, none⟩
      | none => ⟨state, some .malformedMissions⟩ := by
  rw [MissionState.process, h, Text.string?_ofString]
  rfl

theorem process_missionAccepted {id : Int} (h : Accepts id event) :
    MissionState.process event state =
      match Mission.check id event.content with
      | .ok m => ⟨⟨MissionState.remove (missionId event) state.active ++ [m]⟩, none⟩
      | .error problems =>
        ⟨⟨MissionState.remove (missionId event) state.active⟩, some (.invalid problems)⟩ := by
  obtain ⟨hkind, hid⟩ := h
  rw [missionId] at hid ⊢
  rw [MissionState.process, hkind, Text.string?_ofString]
  cases hcheck : Mission.check id event.content <;> simp only [hid, hcheck]

/-- Only these two kinds of events can fail. -/
theorem failure_process_of_ne (hlist : event.kind ≠ "Missions") (haccepts : ∀ id, ¬Accepts id event) :
    (MissionState.process event state).failure = none := by
  unfold MissionState.process
  split
  · next hkind => exact absurd (Text.string?_eq_some_iff.1 hkind) hlist
  · next hkind =>
    dsimp only
    split
    · rfl
    · next id hid => exact absurd ⟨Text.string?_eq_some_iff.1 hkind, hid⟩ (haccepts id)
  all_goals rfl

/-- **Whether an event fails for the missions is told by its fields alone.** -/
theorem isSome_failure_process_iff :
    (MissionState.process event state).failure.isSome = true ↔ Malformed event := by
  by_cases hlist : event.kind = "Missions"
  · have haccepts : ∀ id, ¬Accepts id event :=
      not_accepts_of_kind_ne (by simp [hlist, Text.ofString_inj])
    rw [process_missions hlist, Malformed, ← isSome_listedIds?_iff]
    cases MissionState.listedIds? (event.content.getD "Active" (.list [])) <;>
      simp [hlist, haccepts]
  by_cases haccepts : ∃ id, Accepts id event
  · obtain ⟨id, hid⟩ := haccepts
    have hid' : ∃ id, Accepts id event := ⟨id, hid⟩
    rw [process_missionAccepted hid, Malformed, ← @exists_check_iff id]
    cases Mission.check id event.content <;> simp [hlist, hid']
  · rw [failure_process_of_ne hlist (not_exists.1 haccepts)]
    simp [Malformed, hlist, haccepts]

theorem remove_missionId {id : Int} (h : Accepts id event) (active : List Mission) :
    MissionState.remove (missionId event) active = active.filter fun m => ¬Accepts m.id event := by
  refine List.filter_congr fun m _ => ?_
  rw [equalsInt_of_int? h.2, decide_not]
  congr 1
  rw [Bool.eq_iff_iff, beq_iff_eq, decide_eq_true_eq]
  constructor
  · rintro rfl
    exact h
  · intro hm
    exact Option.some.inj (hm.2.symm.trans h.2)

/-- A malformed event closes the mission that it accepts, and no other one. -/
theorem active_process_of_malformed (h : Malformed event) :
    (MissionState.process event state).state.active =
      state.active.filter fun m => ¬Accepts m.id event := by
  obtain ⟨hkind, hlist⟩ | ⟨⟨id, hid⟩, hfields⟩ := h
  · have haccepts : ∀ id, ¬Accepts id event :=
      not_accepts_of_kind_ne (by simp [hkind, Text.ofString_inj])
    rw [← isSome_listedIds?_iff, Option.not_isSome_iff_eq_none] at hlist
    rw [process_missions hkind, hlist]
    exact (List.filter_eq_self.2 fun m _ => decide_eq_true (haccepts m.id)).symm
  · rw [process_missionAccepted hid, ← remove_missionId hid]
    cases hcheck : Mission.check id event.content with
    | ok m => exact absurd (exists_check_iff.1 ⟨m, hcheck⟩) hfields
    | error problems => rfl

end

/-! ### A run -/

/-- Which open missions an event leaves is told by their numbers. -/
theorem ids_filterMap_after? (event : Event) (active : List Mission) :
    (active.filterMap (Mission.after? event)).map Mission.id =
      (active.map Mission.id).filter fun id => ¬(Accepts id event ∨ Closes id event) := by
  rw [List.map_filterMap, ← List.filterMap_eq_filter, List.filterMap_map]
  refine List.filterMap_congr fun m _ => ?_
  show (m.after? event).map Mission.id =
    Option.guard (fun id => decide ¬(Accepts id event ∨ Closes id event)) m.id
  rw [Mission.after?, Option.guard]
  by_cases hgone : Accepts m.id event ∨ Closes m.id event
  · rw [if_pos hgone, if_neg (by rwa [decide_eq_true_eq, not_not])]
    rfl
  · rw [if_neg hgone, if_pos (decide_eq_true hgone)]
    split <;> rfl

theorem nodup_ids_process (event : Event) {state : MissionState}
    (h : (state.active.map Mission.id).Nodup) :
    ((MissionState.process event state).state.active.map Mission.id).Nodup := by
  by_cases hmalformed : Malformed event
  · rw [active_process_of_malformed hmalformed]
    exact h.sublist (List.filter_sublist.map _)
  · have hfailure : (MissionState.process event state).failure = none := by
      rwa [← isSome_failure_process_iff, Option.not_isSome_iff_eq_none] at hmalformed
    rw [active_process hfailure, List.map_append, ids_filterMap_after?]
    refine (h.filter _).append ?_ fun id hid haccepted => ?_
    · cases accepted? event <;> simp
    · obtain ⟨m, hm, rfl⟩ := List.mem_map.1 haccepted
      have haccepts := (accepted?_eq_some_iff.1 (Option.mem_toList.1 hm)).1
      simp [haccepts] at hid

/-- Open missions differ in their numbers. -/
theorem nodup_ids_processAll (events : List Event) :
    ((empty.processAll events).openMissions.map Mission.id).Nodup := by
  induction events using List.reverseRecOn with
  | nil => exact List.nodup_nil
  | append_singleton events event ih =>
    rw [processAll_append]
    exact nodup_ids_process event ih

/-- The missions fail on an event exactly if it is malformed. -/
theorem exists_failure_iff (event : Event) (c : Chronicle) :
    (∃ f, (.missions, f) ∈ (c.process event).2) ↔ Malformed event := by
  rw [← @isSome_failure_process_iff event c.missions.state,
    Option.isSome_iff_exists]
  exact exists_congr fun f => mem_failures_iff

/-! ### Main statement -/

theorem Accepts.unique {id id' : Int} {event : Event} (h : Accepts id event) (h' : Accepts id' event) :
    id = id' :=
  Option.some.inj (h.2.symm.trans h'.2)

/-- An event accepts one mission at most. -/
theorem length_le_of_nodup {event : Event} {active : List Mission}
    (h : (active.map Mission.id).Nodup) :
    active.length ≤ (active.filter fun m => ¬Accepts m.id event).length + 1 := by
  have hsplit := List.length_eq_length_filter_add (l := active) fun m => decide (Accepts m.id event)
  have haccepted : (active.filter fun m => Accepts m.id event).length ≤ 1 := by
    have hnodup : ((active.filter fun m => Accepts m.id event).map Mission.id).Nodup :=
      h.sublist (List.filter_sublist.map _)
    have haccepts : ∀ m ∈ active.filter fun m => Accepts m.id event, Accepts m.id event :=
      fun m hm => of_decide_eq_true (List.mem_filter.1 hm).2
    match hlist : active.filter fun m => Accepts m.id event with
    | [] => simp [hlist]
    | [m] => simp [hlist]
    | m :: m' :: rest =>
      rw [hlist] at hnodup haccepts
      have hsame : m.id = m'.id := (haccepts m (by simp)).unique (haccepts m' (by simp))
      simp [hsame] at hnodup
  simp only [decide_not] at hsplit ⊢
  omega

/-- **What a failure does to the open missions.** After any run, the missions fail on an event exactly
if it is malformed. Then the open missions are those from before without the one whose number the event
gives as accepted: nothing changes exactly if there is no such mission, and no other one is lost. -/
theorem openMissions_of_malformed (events : List Event) (event : Event) :
    let c := empty.processAll events
    let c' := (c.process event).1
    ((∃ f, (.missions, f) ∈ (c.process event).2) ↔ Malformed event) ∧
    (Malformed event →
      c'.openMissions = c.openMissions.filter (fun m => ¬Accepts m.id event) ∧
      (c'.openMissions = c.openMissions ↔ ∀ m ∈ c.openMissions, ¬Accepts m.id event) ∧
      c.openMissions.length ≤ c'.openMissions.length + 1) := by
  intro c c'
  refine ⟨exists_failure_iff event c, fun hmalformed => ?_⟩
  have hactive : c'.openMissions = c.openMissions.filter fun m => ¬Accepts m.id event :=
    active_process_of_malformed hmalformed
  refine ⟨hactive, ?_, ?_⟩
  · rw [hactive, List.filter_eq_self]
    simp only [decide_eq_true_eq]
  · rw [hactive]
    exact length_le_of_nodup (nodup_ids_processAll events)

/-- The acceptance of a mission, with some fields of it. -/
def acceptance (id : Int) (more : Fields) : Event :=
  .ofEntry (("event", .text "MissionAccepted") :: ("MissionID", .int id) :: more) false none

/-- While mission 7 is open, neither an acceptance of mission 8 with a number for its faction nor a list
of numbers in place of objects closes it. -/
theorem openMissions_of_malformed_other :
    let c := empty.processAll [acceptance 7 [("Name", .text "Courier")]]
    let unnamed := acceptance 8 [("Faction", .int 5)]
    let numbers : Event :=
      .ofEntry [("event", .text "Missions"), ("Active", .list [.int 7])] false none
    c.openMissions = [{ id := 7, name := "Courier" }] ∧
      (Malformed unnamed ∧ (c.process unnamed).1.openMissions = c.openMissions) ∧
      Malformed numbers ∧ (c.process numbers).1.openMissions = c.openMissions := by
  intro c unnamed numbers
  have hunnamed : Malformed unnamed := .inr ⟨⟨8, by decide⟩, by decide⟩
  have hnumbers : Malformed numbers := by
    refine .inl ⟨by decide, fun hlist => ?_⟩
    obtain ⟨fields, hfields⟩ := hlist (.int 7) (List.mem_singleton.2 rfl)
    cases hfields
  have hopen : c.openMissions = [{ id := 7, name := "Courier" }] := by rfl
  obtain ⟨-, hsame, -⟩ := (openMissions_of_malformed [acceptance 7 [("Name", .text "Courier")]]
    unnamed).2 hunnamed
  obtain ⟨-, hsame', -⟩ := (openMissions_of_malformed [acceptance 7 [("Name", .text "Courier")]]
    numbers).2 hnumbers
  refine ⟨hopen, ⟨hunnamed, hsame.2 ?_⟩, hnumbers, hsame'.2 ?_⟩
  · rw [hopen, List.forall_mem_singleton]
    decide
  · rw [hopen, List.forall_mem_singleton]
    decide

/-- Mission 7 is accepted again with a number for its name: the acceptance fails, and the mission is no
longer open. -/
theorem openMissions_ne_unnamed :
    let c := empty.processAll [acceptance 7 [("Name", .text "Courier")]]
    let unnamed := acceptance 7 [("Name", .int 5)]
    (∃ f, (.missions, f) ∈ (c.process unnamed).2) ∧
      c.openMissions = [{ id := 7, name := "Courier" }] ∧
      (c.process unnamed).1.openMissions = [] := by
  intro c unnamed
  refine ⟨?_, by rfl, by rfl⟩
  exact (exists_failure_iff unnamed c).2 (.inr ⟨⟨7, by decide⟩, by decide⟩)

end Chronicle

end JournalHerald

import JournalHerald.Chronicle
import JournalHerald.Proofs.Schema.Checks
import Mathlib.Data.List.Basic

/-!
# The open missions of a run

The open missions are kept as a list that every event changes in place. Here the list is told from
the events alone: which missions are open, in which order, and with which destinations
(`OpenAfter`).

What an event does to the list is told mission by mission: every open mission is left over, changed
or dropped on its own (`Mission.after?`), and an accepted one comes last (`active_process`). So a
mission has a history of its own, which begins with its last acceptance (`Mission.afterAll?`).

* `Accepts`, `Closes` and `Redirects` are the events of a mission;
* `Mission.told` is the mission that an acceptance tells of, `latest?` what redirections tell last;
* `opened` are the missions that a run leaves open.
-/

namespace JournalHerald

namespace Chronicle

/-! ### The events of a mission -/

/-- The number of a mission, as an event gives it. -/
def missionId (event : Event) : Value :=
  event.content.getD "MissionID" .null

/-- The event accepts the mission. -/
def Accepts (id : Int) (event : Event) : Prop :=
  event.kind = "MissionAccepted" ∧ (missionId event).int? = some id

/-- The mission is in a list of open missions. -/
def lists (id : Int) : Value → Bool
  | .list items =>
    items.any fun
      | .object fields => (Fields.getD fields "MissionID" .null).equalsInt id
      | _ => false
  | _ => false

/-- The mission is completed, abandoned or failed, or a list of all open missions lacks it. -/
def Closes (id : Int) (event : Event) : Prop :=
  ((event.kind = "MissionCompleted" ∨ event.kind = "MissionAbandoned" ∨
      event.kind = "MissionFailed") ∧ (missionId event).equalsInt id = true) ∨
    (event.kind = "Missions" ∧ lists id (event.content.getD "Active" (.list [])) = false)

/-- The event may change the destination of the mission. -/
def Redirects (id : Int) (event : Event) : Prop :=
  event.kind = "MissionRedirected" ∧ (missionId event).equalsInt id = true

instance (id : Int) (event : Event) : Decidable (Accepts id event) :=
  inferInstanceAs (Decidable (_ ∧ _))

instance (id : Int) (event : Event) : Decidable (Closes id event) :=
  inferInstanceAs (Decidable (_ ∨ _))

instance (id : Int) (event : Event) : Decidable (Redirects id event) :=
  inferInstanceAs (Decidable (_ ∧ _))

/-- What redirections of the mission tell last for a field; an empty value tells nothing. -/
def latest? (id : Int) (field : Text) (events : List Event) : Option Value :=
  (((events.filter fun e => Redirects id e).map fun e => e.content.getD field .null).filter
    Value.isTruthy).getLast?

namespace Mission

/-- The mission that the fields of its acceptance tell of. -/
def told (id : Int) (content : Fields) : Mission :=
  let text (field : Text) : Option Text := (content.getD field .null).spelled?
  { id
    name := (content.getD "Name" (.text "Unknown")).spelled?.getD "Unknown"
    localisedName := text "LocalisedName"
    faction := text "Faction"
    expiry := text "Expiry"
    destinationSystem := .ofText? (text "DestinationSystem")
    destinationStation := .ofText? (text "DestinationStation")
    reward := (content.getD "Reward" .null).int? }

/-- The mission with what its redirections among some events tell last. -/
def redirectedBy (events : List Event) (m : Mission) : Mission :=
  { m with
    destinationSystem := (latest? m.id "NewDestinationSystem" events).getD m.destinationSystem
    destinationStation := (latest? m.id "NewDestinationStation" events).getD m.destinationStation }

/-- What an event leaves of an open mission. -/
def after? (event : Event) (m : Mission) : Option Mission :=
  if Accepts m.id event ∨ Closes m.id event then none
  else if Redirects m.id event then some (m.redirect event.content)
  else some m

/-- What events leave of an open mission. -/
def afterAll? : List Event → Mission → Option Mission
  | [], m => some m
  | event :: rest, m => (m.after? event).bind (afterAll? rest)

end Mission

/-- The mission that an event accepts. -/
def accepted? (event : Event) : Option Mission :=
  if event.kind = "MissionAccepted" then
    (missionId event).int?.map fun id => Mission.told id event.content
  else none

/-- The missions that are accepted in the course of events and open after the last one. -/
def opened : List Event → List Mission
  | [] => []
  | event :: rest => ((accepted? event).bind (Mission.afterAll? rest)).toList ++ opened rest

/-! ### One event -/

theorem equalsInt_of_int? {v : Value} {n : Int} (h : v.int? = some n) (i : Int) :
    v.equalsInt i = (i == n) := by
  cases v <;> cases h <;> rfl

/-- A list of objects names a mission exactly if one of its numbers is that of the mission. -/
theorem any_listedIds? {v : Value} {ids : List Value} (h : MissionState.listedIds? v = some ids)
    (id : Int) : (ids.any fun i => i.equalsInt id) = lists id v := by
  unfold MissionState.listedIds? at h
  split at h
  · next items =>
    rw [lists]
    induction items generalizing ids with
    | nil => cases h; rfl
    | cons item items ih =>
      rw [List.mapM_cons] at h
      obtain ⟨first, hfirst, h⟩ := Option.bind_eq_some_iff.1 h
      obtain ⟨rest, hrest, h⟩ := Option.bind_eq_some_iff.1 h
      cases h
      rw [List.any_cons, List.any_cons, ih hrest]
      split at hfirst
      · cases hfirst; rfl
      · cases hfirst
  · cases h; rfl
  · cases h; rfl
  · cases h

section Kinds

variable {event : Event} {m : Mission}

theorem after?_of_missions (h : event.kind = "Missions") :
    m.after? event =
      Option.guard (fun m => lists m.id (event.content.getD "Active" (.list []))) m := by
  by_cases hlists : lists m.id (event.content.getD "Active" (.list [])) = true <;>
    simp [Mission.after?, Accepts, Closes, Redirects, h, hlists, Text.ofString_inj, Option.guard]

theorem after?_of_missionAccepted (h : event.kind = "MissionAccepted") :
    m.after? event = if (missionId event).int? = some m.id then none else some m := by
  simp [Mission.after?, Accepts, Closes, Redirects, h, Text.ofString_inj]

theorem after?_of_missionRedirected (h : event.kind = "MissionRedirected") :
    m.after? event =
      some (if (missionId event).equalsInt m.id then m.redirect event.content else m) := by
  by_cases hid : (missionId event).equalsInt m.id = true <;>
    simp [Mission.after?, Accepts, Closes, Redirects, h, hid, Text.ofString_inj]

theorem after?_of_concluded (h : event.kind = "MissionCompleted" ∨
    event.kind = "MissionAbandoned" ∨ event.kind = "MissionFailed") :
    m.after? event = Option.guard (fun m => !(missionId event).equalsInt m.id) m := by
  have hkind : event.kind ≠ "MissionAccepted" ∧ event.kind ≠ "Missions" ∧
      event.kind ≠ "MissionRedirected" := by
    rcases h with h | h | h <;> simp [h, Text.ofString_inj]
  by_cases hid : (missionId event).equalsInt m.id = true <;>
    simp [Mission.after?, Accepts, Closes, Redirects, h, hkind, hid, Option.guard]

theorem accepted?_of_ne (h : event.kind ≠ "MissionAccepted") : accepted? event = none :=
  if_neg h

theorem after?_of_other (h : event.kind ≠ "MissionAccepted" ∧ event.kind ≠ "Missions" ∧
    event.kind ≠ "MissionRedirected" ∧ event.kind ≠ "MissionCompleted" ∧
    event.kind ≠ "MissionAbandoned" ∧ event.kind ≠ "MissionFailed") : m.after? event = some m := by
  simp [Mission.after?, Accepts, Closes, Redirects, h]

end Kinds

/-- The fields of a mission that passes the check are those that are told. -/
theorem eq_told_of_check {id : Int} {content : Fields} {m : Mission}
    (h : Mission.check id content = .ok m) : m = Mission.told id content := by
  obtain ⟨_, station, h4, hstation, rfl⟩ := Schema.Check.ap_eq_ok h
  obtain ⟨_, system, h3, hsystem, rfl⟩ := Schema.Check.ap_eq_ok h4
  obtain ⟨_, expiry, h2, hexpiry, rfl⟩ := Schema.Check.ap_eq_ok h3
  obtain ⟨_, faction, h1, hfaction, rfl⟩ := Schema.Check.ap_eq_ok h2
  obtain ⟨_, localised, h0, hlocalised, rfl⟩ := Schema.Check.ap_eq_ok h1
  have hoptional : ∀ {field : Text} {t : Option Text},
      Schema.Check.within field (Schema.Check.optionalText (content.getD field .null)) = .ok t →
        t = (content.getD field .null).spelled? :=
    fun h => Schema.Check.eq_spelled_of_optionalText (Schema.Check.within_eq_ok.1 h)
  cases hname : Schema.Check.within "Name"
      (Schema.Check.text (content.getD "Name" (.text "Unknown"))) with
  | error problems => rw [hname] at h0; cases h0
  | ok name =>
    rw [hname] at h0
    cases h0
    have hspelled := Schema.Check.text_eq_ok.1 (Schema.Check.within_eq_ok.1 hname)
    simp only [Mission.told, hspelled, Option.getD_some, ← hoptional hlocalised,
      ← hoptional hfaction, ← hoptional hexpiry, ← hoptional hsystem, ← hoptional hstation]

/-- **What an event does to the open missions is told mission by mission.** -/
theorem active_process {event : Event} {state : MissionState}
    (h : (MissionState.process event state).failure = none) :
    (MissionState.process event state).state.active =
      state.active.filterMap (Mission.after? event) ++ (accepted? event).toList := by
  have hkind : ∀ {kind : String}, event.kind.string? = some kind → event.kind = kind :=
    fun h => Text.string?_eq_some_iff.1 h
  have hconcluded : event.kind = "MissionCompleted" ∨ event.kind = "MissionAbandoned" ∨
      event.kind = "MissionFailed" → MissionState.remove (missionId event) state.active =
        state.active.filterMap (Mission.after? event) ++ (accepted? event).toList := by
    intro hk
    have hne : event.kind ≠ "MissionAccepted" := by
      rcases hk with hk | hk | hk <;> simp [hk, Text.ofString_inj]
    rw [accepted?_of_ne hne, Option.toList_none, List.append_nil,
      List.filterMap_congr fun _ _ => after?_of_concluded hk, List.filterMap_eq_filter]
    rfl
  unfold MissionState.process at h ⊢
  split at h
  · next hk =>
    have hne : event.kind ≠ "MissionAccepted" := by simp [hkind hk, Text.ofString_inj]
    rw [accepted?_of_ne hne, Option.toList_none, List.append_nil,
      List.filterMap_congr fun _ _ => after?_of_missions (hkind hk), List.filterMap_eq_filter]
    dsimp only at h ⊢
    split at h
    · next ids hids =>
      exact List.filter_congr fun m _ => any_listedIds? hids m.id
    · cases h
  · next hk =>
    rw [accepted?, if_pos (hkind hk),
      List.filterMap_congr fun _ _ => after?_of_missionAccepted (hkind hk)]
    dsimp only at h ⊢
    rw [← missionId] at h ⊢
    cases hid : (missionId event).int? with
    | none => simp
    | some id =>
      rw [hid] at h
      dsimp only at h ⊢
      cases hcheck : Mission.check id event.content with
      | error problems => rw [hcheck] at h; cases h
      | ok m =>
        rw [eq_told_of_check hcheck]
        have hremove : MissionState.remove (missionId event) state.active =
            state.active.filterMap fun m => if some id = some m.id then none else some m := by
          rw [MissionState.remove, ← List.filterMap_eq_filter]
          refine List.filterMap_congr fun m _ => ?_
          by_cases he : id = m.id
          · simp [Option.guard, equalsInt_of_int? hid, he]
          · simp [Option.guard, equalsInt_of_int? hid, he, Ne.symm he]
        rw [hremove]
        rfl
  · next hk =>
    have hne : event.kind ≠ "MissionAccepted" := by simp [hkind hk, Text.ofString_inj]
    rw [accepted?_of_ne hne, Option.toList_none, List.append_nil,
      List.filterMap_congr fun _ _ => after?_of_missionRedirected (hkind hk),
      List.filterMap_eq_map']
    rfl
  · next hk => exact hconcluded (.inl (hkind hk))
  · next hk => exact hconcluded (.inr (.inl (hkind hk)))
  · next hk => exact hconcluded (.inr (.inr (hkind hk)))
  · next hmissions haccepted hredirected hcompleted habandoned hfailed =>
    have hne : ∀ kind : String, (event.kind.string? = some kind → False) → event.kind ≠ kind :=
      fun kind h hk => h (Text.string?_eq_some_iff.2 hk)
    rw [accepted?_of_ne (hne _ haccepted), Option.toList_none, List.append_nil,
      List.filterMap_congr fun _ _ => after?_of_other ⟨hne _ haccepted, hne _ hmissions,
        hne _ hredirected, hne _ hcompleted, hne _ habandoned, hne _ hfailed⟩,
      List.filterMap_some]

/-! ### A run -/

/-- What has failed in the course of events. -/
def failures : List Event → Chronicle → List (Tracker × Failure)
  | [], _ => []
  | event :: rest, c => (c.process event).2 ++ failures rest (c.process event).1

theorem missions_process (event : Event) (c : Chronicle) :
    (c.process event).1.missions.state = (MissionState.process event c.missions.state).state :=
  rfl

theorem mem_failures_process {event : Event} {c : Chronicle} {f : Failure}
    (h : (MissionState.process event c.missions.state).failure = some f) :
    (.missions, f) ∈ (c.process event).2 := by
  have hupdate : (c.missions.update MissionState.process event).2 = some f := h
  simp [process, processFacts, hupdate]

/-- **The open missions after a run** are what is left of those before it, and the opened ones. -/
theorem active_processAll {events : List Event} {c : Chronicle}
    (h : ∀ f, (.missions, f) ∉ c.failures events) :
    (c.processAll events).missions.state.active =
      c.missions.state.active.filterMap (Mission.afterAll? events) ++ opened events := by
  induction events generalizing c with
  | nil =>
    rw [opened, List.append_nil]
    exact List.filterMap_some.symm
  | cons event rest ih =>
    have hevent : (MissionState.process event c.missions.state).failure = none := by
      cases hf : (MissionState.process event c.missions.state).failure with
      | none => rfl
      | some f => exact absurd (List.mem_append_left _ (mem_failures_process hf)) (h f)
    have hrest : ∀ f, (.missions, f) ∉ failures rest (c.process event).1 :=
      fun f hf => h f (List.mem_append_right _ hf)
    have hprocess : (c.processAll (event :: rest)) = (c.process event).1.processAll rest := rfl
    rw [hprocess, ih hrest, missions_process, active_process hevent, List.filterMap_append,
      List.filterMap_filterMap, List.append_assoc, opened]
    congr 2
    cases accepted? event with
    | none => rfl
    | some m =>
      rw [Option.bind_some, Option.toList_some]
      cases hm : m.afterAll? rest <;> simp [hm]

/-! ### The history of a mission -/

theorem getD_latest?_cons (id : Int) (field : Text) (event : Event) (rest : List Event)
    (old : Value) : (latest? id field (event :: rest)).getD old =
      (latest? id field rest).getD
        (if Redirects id event ∧ (event.content.getD field .null).isTruthy then
          event.content.getD field .null else old) := by
  by_cases hid : Redirects id event <;>
    by_cases hnew : (event.content.getD field .null).isTruthy = true <;>
      simp [latest?, hid, hnew, List.getLast?_cons]

theorem redirectedBy_cons (event : Event) (rest : List Event) (m : Mission) :
    m.redirectedBy (event :: rest) =
      (if Redirects m.id event then m.redirect event.content else m).redirectedBy rest := by
  by_cases hid : Redirects m.id event <;>
    simp [Mission.redirectedBy, Mission.redirect, getD_latest?_cons, hid]

/-- **What is left of an open mission**: it is gone with the next acceptance or closing of its
number, and has else what its redirections have told last. -/
theorem afterAll?_eq_some_iff {events : List Event} {m m' : Mission} :
    m.afterAll? events = some m' ↔
      (∀ e ∈ events, ¬Accepts m.id e ∧ ¬Closes m.id e) ∧ m' = m.redirectedBy events := by
  induction events generalizing m with
  | nil => simp [Mission.afterAll?, Mission.redirectedBy, latest?, eq_comm]
  | cons event rest ih =>
    rw [Mission.afterAll?, Mission.after?, redirectedBy_cons, List.forall_mem_cons]
    by_cases hend : Accepts m.id event ∨ Closes m.id event
    · rw [if_pos hend]
      simp [← not_or, hend]
    · rw [if_neg hend]
      by_cases hredirects : Redirects m.id event
      · rw [if_pos hredirects, if_pos hredirects, Option.bind_some, ih]
        simp [← not_or, hend, Mission.redirect]
      · rw [if_neg hredirects, if_neg hredirects, Option.bind_some, ih]
        simp [← not_or, hend]

theorem accepted?_eq_some_iff {event : Event} {m : Mission} :
    accepted? event = some m ↔ Accepts m.id event ∧ m = Mission.told m.id event.content := by
  by_cases hkind : event.kind = "MissionAccepted"
  · rw [accepted?, if_pos hkind, Option.map_eq_some_iff]
    constructor
    · rintro ⟨id, hid, rfl⟩
      exact ⟨⟨hkind, hid⟩, rfl⟩
    · rintro ⟨⟨-, hid⟩, hm⟩
      exact ⟨m.id, hid, hm.symm⟩
  · simp [accepted?, Accepts, hkind]

/-- A mission is opened exactly if it is as its last acceptance and the redirections since then
tell, and has not been closed since then. -/
theorem mem_opened_iff {events : List Event} {m : Mission} :
    m ∈ opened events ↔ ∃ earlier e later, events = earlier ++ e :: later ∧ Accepts m.id e ∧
      (∀ e' ∈ later, ¬Accepts m.id e' ∧ ¬Closes m.id e') ∧
      m = (Mission.told m.id e.content).redirectedBy later := by
  induction events with
  | nil => simp [opened]
  | cons event rest ih =>
    rw [opened, List.mem_append, ih, Option.mem_toList, Option.bind_eq_some_iff]
    constructor
    · rintro (⟨m₀, hm₀, hm⟩ | ⟨earlier, e, later, rfl, h⟩)
      · obtain ⟨haccepts, htold⟩ := accepted?_eq_some_iff.1 hm₀
        obtain ⟨hlater, rfl⟩ := afterAll?_eq_some_iff.1 hm
        exact ⟨[], event, rest, rfl, haccepts, hlater, congrArg _ htold⟩
      · exact ⟨event :: earlier, e, later, rfl, h⟩
    · rintro ⟨earlier, e, later, heq, haccepts, hlater, hm⟩
      cases earlier with
      | nil =>
        cases heq
        exact .inl ⟨Mission.told m.id event.content, accepted?_eq_some_iff.2 ⟨haccepts, rfl⟩,
          afterAll?_eq_some_iff.2 ⟨hlater, hm⟩⟩
      | cons first earlier =>
        cases heq
        exact .inr ⟨earlier, e, later, rfl, haccepts, hlater, hm⟩

/-- The last acceptance of a mission comes before an acceptance of another one. -/
def AcceptedBefore (events : List Event) (id id' : Int) : Prop :=
  ∃ earlier e later, events = earlier ++ e :: later ∧ Accepts id e ∧
    (∀ e' ∈ later, ¬Accepts id e') ∧ ∃ e' ∈ later, Accepts id' e'

theorem AcceptedBefore.cons {events : List Event} {id id' : Int} (event : Event)
    (h : AcceptedBefore events id id') : AcceptedBefore (event :: events) id id' := by
  obtain ⟨earlier, e, later, rfl, h⟩ := h
  exact ⟨event :: earlier, e, later, rfl, h⟩

theorem AcceptedBefore.ne {events : List Event} {id id' : Int} (h : AcceptedBefore events id id') :
    id ≠ id' := by
  rintro rfl
  obtain ⟨-, -, later, -, -, hnone, e', he', haccepts⟩ := h
  exact hnone e' he' haccepts

/-- The opened missions stand in the order of their last acceptances. -/
theorem pairwise_opened (events : List Event) :
    (opened events).Pairwise fun m m' => AcceptedBefore events m.id m'.id := by
  induction events with
  | nil => exact .nil
  | cons event rest ih =>
    rw [opened, List.pairwise_append]
    refine ⟨?_, ih.imp fun h => h.cons event, ?_⟩
    · cases (accepted? event).bind (Mission.afterAll? rest) <;> simp
    · intro m hm m' hm'
      rw [Option.mem_toList, Option.bind_eq_some_iff] at hm
      obtain ⟨m₀, hm₀, hm⟩ := hm
      obtain ⟨haccepts, -⟩ := accepted?_eq_some_iff.1 hm₀
      obtain ⟨hlater, rfl⟩ := afterAll?_eq_some_iff.1 hm
      obtain ⟨earlier, e, later, rfl, haccepts', -⟩ := mem_opened_iff.1 hm'
      exact ⟨[], event, _, rfl, haccepts, fun e' he' => (hlater e' he').1, e, by simp, haccepts'⟩

/-- A number is among those of the opened missions if it has been accepted and not closed since. -/
theorem mem_ids_opened {events earlier later : List Event} {e : Event} {id : Int}
    (heq : events = earlier ++ e :: later) (haccepts : Accepts id e)
    (hclosed : ∀ e' ∈ later, ¬Closes id e') : id ∈ (opened events).map Mission.id := by
  induction events generalizing earlier e later with
  | nil => simp at heq
  | cons event rest ih =>
    rw [opened, List.map_append]
    cases earlier with
    | cons first earlier =>
      cases heq
      exact List.mem_append_right _ (ih rfl haccepts hclosed)
    | nil =>
      cases heq
      -- if the mission is accepted again, the later acceptance counts
      by_cases hlast : ∀ e' ∈ rest, ¬Accepts id e'
      · have htold : accepted? event = some (Mission.told id event.content) :=
          accepted?_eq_some_iff.2 ⟨haccepts, rfl⟩
        have hleft : (Mission.told id event.content).afterAll? rest = some _ :=
          afterAll?_eq_some_iff.2 ⟨fun e' he' => ⟨hlast e' he', hclosed e' he'⟩, rfl⟩
        rw [htold, Option.bind_some, hleft]
        exact List.mem_append_left _ (List.mem_singleton.2 rfl)
      · obtain ⟨e', he', haccepts'⟩ := by simpa using hlast
        obtain ⟨middle, last, rfl⟩ := List.append_of_mem he'
        exact List.mem_append_right _
          (ih rfl haccepts' fun e'' he'' => hclosed e'' (by simp [he'']))

/-! ### Main statement -/

/-- The missions are the open ones after some events. -/
structure OpenAfter (events : List Event) (missions : List Mission) : Prop where
  /-- The open missions are those that have been accepted and not been closed since. -/
  mem_ids_iff : ∀ id, id ∈ missions.map Mission.id ↔ ∃ earlier e later,
    events = earlier ++ e :: later ∧ Accepts id e ∧ ∀ e' ∈ later, ¬Closes id e'
  nodup_ids : (missions.map Mission.id).Nodup
  /-- They stand in the order of their last acceptances. -/
  ordered : missions.Pairwise fun m m' => AcceptedBefore events m.id m'.id
  /-- Each is as its last acceptance tells it, apart from where it has been redirected to since. -/
  told : ∀ m ∈ missions, ∃ earlier e later, events = earlier ++ e :: later ∧ Accepts m.id e ∧
    (∀ e' ∈ later, ¬Accepts m.id e') ∧ m = (Mission.told m.id e.content).redirectedBy later

/-- **The open missions are told by the events of a run**, if none of these fails. -/
theorem openAfter_openMissions {events : List Event}
    (h : ∀ f, (.missions, f) ∉ empty.failures events) :
    OpenAfter events (empty.processAll events).openMissions := by
  have hopen : (empty.processAll events).openMissions = opened events := active_processAll h
  rw [hopen]
  refine ⟨fun id => ⟨fun hid => ?_, ?_⟩, ?_, pairwise_opened events, fun m hm => ?_⟩
  · obtain ⟨m, hm, rfl⟩ := List.mem_map.1 hid
    obtain ⟨earlier, e, later, heq, haccepts, hlater, -⟩ := mem_opened_iff.1 hm
    exact ⟨earlier, e, later, heq, haccepts, fun e' he' => (hlater e' he').2⟩
  · rintro ⟨earlier, e, later, heq, haccepts, hclosed⟩
    exact mem_ids_opened heq haccepts hclosed
  · exact List.pairwise_map.2 ((pairwise_opened events).imp AcceptedBefore.ne)
  · obtain ⟨earlier, e, later, heq, haccepts, hlater, hm⟩ := mem_opened_iff.1 hm
    exact ⟨earlier, e, later, heq, haccepts, fun e' he' => (hlater e' he').1, hm⟩

/-- Two missions, of which the first one is accepted twice and the second one redirected. The truth
value stands for the number one. -/
def missionRun : List Event :=
  [.ofEntry [("event", .text "MissionAccepted"), ("MissionID", .int 1)] true none,
   .ofEntry [("event", .text "MissionAccepted"), ("MissionID", .int 7), ("Name", .text "Courier"),
     ("DestinationSystem", .text "Sol"), ("DestinationStation", .text "Galileo")] true none,
   .ofEntry [("event", .text "MissionAccepted"), ("MissionID", .bool true),
     ("Reward", .int 500)] true none,
   .ofEntry [("event", .text "MissionRedirected"), ("MissionID", .int 7),
     ("NewDestinationSystem", .text "Lave"), ("NewDestinationStation", .text "")] false none,
   .ofEntry [("event", .text "MissionFailed"), ("MissionID", .int 2)] false none,
   .ofEntry [("event", .text "Missions"), ("Active", .list
     [.object [("MissionID", .int 7)], .object [("MissionID", .int 1)]])] false none]

theorem openAfter_openMissions_missionRun :
    empty.failures missionRun = [] ∧
    (empty.processAll missionRun).openMissions =
      [{ id := 7, name := "Courier", destinationSystem := .text "Lave",
         destinationStation := .text "Galileo" }, { id := 1, reward := some 500 }] ∧
    OpenAfter missionRun (empty.processAll missionRun).openMissions := by
  have hfailures : empty.failures missionRun = [] := by rfl
  exact ⟨hfailures, by rfl, openAfter_openMissions fun f hf => by rw [hfailures] at hf; cases hf⟩

end Chronicle

end JournalHerald

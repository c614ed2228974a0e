import JournalHerald.Proofs.Chronicle.Independence
import JournalHerald.Proofs.Chronicle.Ledger
import JournalHerald.Proofs.Chronicle.OpenMissions

/-!
# Time stamps with and without an offset

A time stamp that is missing or cannot be read makes the length of a session unknown, and nothing fails.
The span from a moment with an offset from universal time to one without is another matter: it is not
unknown but refused. A session between two such moments (`isMixed`) cannot be closed, so the game that
would be loaded next is not counted, and the play time cannot be shown. Nothing else goes wrong
(`playTime_of_offsets`), and in a run whose readable time stamps agree on having an offset nothing does
(`Uniform`).

* `Clashes` are the events that fail for the play time, `lostLoads` counts the games among them;
* `process_cases` is all that an event can do to the sessions;
* `Keeps` is what a uniform run preserves.
-/

namespace JournalHerald

/-- There is no span exactly between a moment with an offset and one without. -/
theorem Timestamp.since?_eq_none_iff {later earlier : Timestamp} :
    later.since? earlier = none ↔ (earlier.offset.isSome != later.offset.isSome) = true := by
  unfold since?
  cases later.offset <;> cases earlier.offset <;> simp

/-- What is put together from two steps fails if one of them does. -/
theorem bind_eq_error_iff {ε α β : Type} {x : Except ε α} {f : α → Except ε β} {e : ε} :
    (x >>= f) = .error e ↔ x = .error e ∨ ∃ a, x = .ok a ∧ f a = .error e := by
  cases x <;> simp [bind, Except.bind]

namespace Chronicle

namespace PlayTimeState

/-! ### Mixed sessions -/

/-- One of the moments between which the running session lies has an offset, and the other one has none. -/
def isMixed (state : PlayTimeState) : Bool :=
  match state.sessionStart.bind Timestamp.ofJournal?, state.lastSeen.bind Timestamp.ofJournal? with
  | some start, some last => start.offset.isSome != last.offset.isSome
  | _, _ => false

/-- The event ends a session that is mixed: a game that is loaded ends the session before it, and a
shutdown the session up to itself. -/
def Clashes (event : Event) (state : PlayTimeState) : Prop :=
  (event.kind = "LoadGame" ∧ state.isMixed = true) ∨
    (event.kind = "Shutdown" ∧ (state.see event).isMixed = true)

section

variable {event : Event} {state : PlayTimeState} {failure : Failure}

theorem sessionSeconds_eq_error_iff :
    state.sessionSeconds = .error failure ↔ failure = .mixedOffsets ∧ state.isMixed = true := by
  unfold sessionSeconds isMixed
  cases hstart : state.sessionStart with
  | none => simp
  | some start =>
    cases hlast : state.lastSeen with
    | none => simp
    | some last =>
      simp only [Option.bind_some]
      cases Timestamp.ofJournal? start with
      | none => simp
      | some start =>
        cases Timestamp.ofJournal? last with
        | none => simp
        | some last =>
          simp only [← Timestamp.since?_eq_none_iff]
          cases last.since? start <;> simp [eq_comm]

theorem closeSession_eq_error_iff :
    state.closeSession = .error failure ↔ failure = .mixedOffsets ∧ state.isMixed = true := by
  rw [← sessionSeconds_eq_error_iff, closeSession]
  cases state.sessionSeconds with
  | error f => simp
  | ok seconds => cases seconds <;> simp

/-- A session that is not mixed can be closed, whatever its length is taken for. -/
theorem closeSession_of_not_isMixed (h : ¬state.isMixed = true) :
    ∃ seconds, state.closeSession = .ok { state with closedSeconds := seconds, sessionStart := none } := by
  cases hclosed : state.closeSession with
  | error f => exact absurd (closeSession_eq_error_iff.1 hclosed).2 h
  | ok closed =>
    unfold closeSession at hclosed
    split at hclosed <;> cases hclosed
    · exact ⟨_, rfl⟩
    · exact ⟨state.closedSeconds, rfl⟩

theorem span_ne_error_mixedOffsets (seconds : Double) : span seconds ≠ .error .mixedOffsets := by
  unfold span
  split <;> exact nofun

/-- The play time is refused on account of its time stamps exactly if the running session is mixed. -/
theorem counters_eq_error_iff : state.counters = .error .mixedOffsets ↔ state.isMixed = true := by
  rw [counters, bind_eq_error_iff, sessionSeconds_eq_error_iff]
  refine ⟨?_, fun hmixed => .inl ⟨rfl, hmixed⟩⟩
  rintro (⟨-, hmixed⟩ | ⟨current, -, hspans⟩)
  · exact hmixed
  -- the spans of the total and of the running session can be too long, but nothing else
  obtain htotal | ⟨total, -, hspans⟩ := bind_eq_error_iff.1 hspans
  · exact absurd htotal (span_ne_error_mixedOffsets _)
  cases current with
  | none => cases hspans
  | some seconds =>
    obtain hcurrent | ⟨_, -, hreturn⟩ := bind_eq_error_iff.1 hspans
    · cases hspan : span seconds with
      | error f =>
        rw [hspan] at hcurrent
        cases hcurrent
        exact absurd hspan (span_ne_error_mixedOffsets seconds)
      | ok d =>
        rw [hspan] at hcurrent
        cases hcurrent
    · cases hreturn

/-! ### One event -/

/-- All that an event can do to the sessions. -/
theorem process_cases (event : Event) (state : PlayTimeState) :
    (event.kind = "LoadGame" ∧ state.isMixed = true ∧
      process event state = ⟨state, some .mixedOffsets⟩) ∨
    (event.kind = "LoadGame" ∧ ¬state.isMixed = true ∧ ∃ seconds, process event state =
      ⟨see event { state with
        sessions := state.sessions + 1, closedSeconds := seconds, sessionStart := stamp? event }, none⟩) ∨
    (event.kind = "Shutdown" ∧ (state.see event).isMixed = true ∧
      process event state = ⟨state.see event, some .mixedOffsets⟩) ∨
    (event.kind = "Shutdown" ∧ ¬(state.see event).isMixed = true ∧ ∃ seconds, process event state =
      ⟨{ state.see event with closedSeconds := seconds, sessionStart := none }, none⟩) ∨
    (event.kind ≠ "LoadGame" ∧ event.kind ≠ "Shutdown" ∧
      process event state = ⟨state.see event, none⟩) := by
  by_cases hload : event.kind = "LoadGame"
  · by_cases hmixed : state.isMixed = true
    · refine .inl ⟨hload, hmixed, ?_⟩
      have hopen : state.openSession event = .error .mixedOffsets := by
        rw [openSession, closeSession_eq_error_iff.2 ⟨rfl, hmixed⟩]
      rw [process, hload, Text.string?_ofString]
      simp only [hopen]
    · obtain ⟨seconds, hclosed⟩ := closeSession_of_not_isMixed hmixed
      refine .inr (.inl ⟨hload, hmixed, seconds, ?_⟩)
      have hopen : state.openSession event = .ok { state with
          sessions := state.sessions + 1, closedSeconds := seconds, sessionStart := stamp? event } := by
        rw [openSession, hclosed]
      rw [process, hload, Text.string?_ofString]
      simp only [hopen]
  by_cases hquit : event.kind = "Shutdown"
  · by_cases hmixed : (state.see event).isMixed = true
    · refine .inr (.inr (.inl ⟨hquit, hmixed, ?_⟩))
      have hclosed := closeSession_eq_error_iff.2 ⟨rfl, hmixed⟩
      rw [process, hquit, Text.string?_ofString]
      simp only [hclosed]
    · obtain ⟨seconds, hclosed⟩ := closeSession_of_not_isMixed hmixed
      refine .inr (.inr (.inr (.inl ⟨hquit, hmixed, seconds, ?_⟩)))
      rw [process, hquit, Text.string?_ofString]
      simp only [hclosed]
  · refine .inr (.inr (.inr (.inr ⟨hload, hquit, ?_⟩)))
    unfold process
    split
    · next hkind => exact absurd (Text.string?_eq_some_iff.1 hkind) hload
    · next hkind => exact absurd (Text.string?_eq_some_iff.1 hkind) hquit
    · rfl

@[simp] theorem sessions_see (event : Event) (state : PlayTimeState) :
    (state.see event).sessions = state.sessions := by
  unfold see
  split <;> rfl

/-- **An event fails for the play time exactly if it ends a mixed session.** -/
theorem failure_process_iff :
    (process event state).failure = some failure ↔ failure = .mixedOffsets ∧ Clashes event state := by
  have hne : Text.ofString "LoadGame" ≠ Text.ofString "Shutdown" := by decide
  obtain ⟨hkind, hmixed, h⟩ | ⟨hkind, hmixed, _, h⟩ | ⟨hkind, hmixed, h⟩ | ⟨hkind, hmixed, _, h⟩ |
    ⟨hload, hquit, h⟩ := process_cases event state
  · have hclashes : Clashes event state := .inl ⟨hkind, hmixed⟩
    simp [h, hclashes, eq_comm]
  · simp [h, Clashes, hkind, hmixed, hne]
  · have hclashes : Clashes event state := .inr ⟨hkind, hmixed⟩
    simp [h, hclashes, eq_comm]
  · simp [h, Clashes, hkind, hmixed, hne.symm]
  · simp [h, Clashes, hload, hquit]

/-- A game that is loaded is counted unless the session before it is mixed. -/
theorem sessions_process (event : Event) (state : PlayTimeState) :
    (process event state).state.sessions =
      state.sessions + if event.kind = "LoadGame" ∧ ¬state.isMixed = true then 1 else 0 := by
  have hne : Text.ofString "Shutdown" ≠ Text.ofString "LoadGame" := by decide
  obtain ⟨hkind, hmixed, h⟩ | ⟨hkind, hmixed, _, h⟩ | ⟨hkind, hmixed, h⟩ | ⟨hkind, hmixed, _, h⟩ |
    ⟨hload, hquit, h⟩ := process_cases event state
  · simp [h, hkind, hmixed]
  · simp [h, hkind, hmixed]
  · simp [h, hkind, hne]
  · simp [h, hkind, hne]
  · simp [h, hload]

end

/-! ### Uniform time stamps -/

/-- The time stamp of an event has an offset, as `b` says, if it can be read at all. -/
def Fits (b : Bool) (stamp : Option Text) : Prop :=
  ∀ t, stamp.bind Timestamp.ofJournal? = some t → t.offset.isSome = b

/-- Both time stamps of a state fit. -/
structure Keeps (b : Bool) (state : PlayTimeState) : Prop where
  start : Fits b state.sessionStart
  last : Fits b state.lastSeen

section

variable {b : Bool} {event : Event} {state : PlayTimeState}

theorem fits_none : Fits b none :=
  fun _ h => nomatch h

theorem Keeps.not_isMixed (h : Keeps b state) : ¬state.isMixed = true := by
  unfold isMixed
  split
  · next start last hstart hlast => simp [h.start start hstart, h.last last hlast]
  · exact Bool.false_ne_true

theorem Keeps.see (h : Keeps b state) (he : Fits b (stamp? event)) : Keeps b (state.see event) := by
  unfold PlayTimeState.see
  split
  · next stamp hstamp => exact ⟨h.start, hstamp ▸ he⟩
  · exact h

/-- An event whose time stamp fits does not fail, and the time stamps still fit after it. -/
theorem Keeps.process (h : Keeps b state) (he : Fits b (stamp? event)) :
    ¬Clashes event state ∧ Keeps b (process event state).state := by
  have hseen := h.see he
  refine ⟨?_, ?_⟩
  · rintro (⟨-, hmixed⟩ | ⟨-, hmixed⟩)
    · exact h.not_isMixed hmixed
    · exact hseen.not_isMixed hmixed
  obtain ⟨-, -, hp⟩ | ⟨-, -, _, hp⟩ | ⟨-, -, hp⟩ | ⟨-, -, _, hp⟩ | ⟨-, -, hp⟩ :=
    process_cases event state
  · rw [hp]
    exact h
  · rw [hp]
    exact Keeps.see ⟨he, h.last⟩ he
  · rw [hp]
    exact hseen
  · rw [hp]
    exact ⟨fits_none, hseen.last⟩
  · rw [hp]
    exact hseen

end

/-! ### A run -/

/-- How many games are not counted because the session before them is mixed. -/
def lostLoads : List Event → PlayTimeState → Nat
  | [], _ => 0
  | event :: rest, state =>
    (if event.kind = "LoadGame" ∧ state.isMixed = true then 1 else 0) +
      lostLoads rest (process event state).state

theorem sessions_add_lostLoads (events : List Event) (state : PlayTimeState) :
    (events.foldl (fun state event => (process event state).state) state).sessions +
        lostLoads events state =
      state.sessions + events.countP fun e : Event => e.kind = "LoadGame" := by
  induction events generalizing state with
  | nil => rfl
  | cons event rest ih =>
    have hrest := ih (process event state).state
    have hevent := sessions_process event state
    rw [List.foldl_cons, List.countP_cons, lostLoads]
    by_cases hload : event.kind = "LoadGame" <;> by_cases hmixed : state.isMixed = true <;>
      simp only [hload, hmixed, true_and, false_and, not_true_eq_false, not_false_eq_true, if_true,
        if_false, decide_true, decide_false, Bool.false_eq_true] at hevent ⊢ <;> omega

end PlayTimeState

open PlayTimeState

/-- The readable time stamps of events all have an offset, or none of them has one. -/
def Uniform (events : List Event) : Prop :=
  ∃ b, ∀ e ∈ events, ∀ t, Timestamp.ofJournal? e.timestamp = some t → t.offset.isSome = b

theorem playTime_processAll (events : List Event) (c : Chronicle) :
    (c.processAll events).playTime.state =
      events.foldl (fun state event => (PlayTimeState.process event state).state) c.playTime.state := by
  induction events generalizing c with
  | nil => rfl
  | cons event rest ih => exact ih (c.process event).1

theorem mem_failures_playTime_iff {event : Event} {c : Chronicle} {failure : Failure} :
    (.playTime, failure) ∈ (c.process event).2 ↔
      failure = .mixedOffsets ∧ Clashes event c.playTime.state :=
  mem_failures_iff.trans failure_process_iff

/-- The time stamp that counts is that of the event, unless it is empty. -/
theorem fits_stamp? {b : Bool} {event : Event}
    (h : ∀ t, Timestamp.ofJournal? event.timestamp = some t → t.offset.isSome = b) :
    Fits b (stamp? event) := by
  unfold stamp?
  split
  · exact fits_none
  · exact h

/-- Nothing fails for the play time in a run whose time stamps fit. -/
theorem keeps_processAll {b : Bool} {events : List Event} {c : Chronicle}
    (h : ∀ e ∈ events, Fits b (stamp? e)) (hc : Keeps b c.playTime.state) :
    Keeps b (c.processAll events).playTime.state ∧ (∀ f, (.playTime, f) ∉ c.failures events) ∧
      lostLoads events c.playTime.state = 0 := by
  induction events generalizing c with
  | nil => exact ⟨hc, fun f hf => (List.not_mem_nil hf).elim, rfl⟩
  | cons event rest ih =>
    obtain ⟨he, hrest⟩ := List.forall_mem_cons.1 h
    obtain ⟨hclashes, hkeeps⟩ := hc.process he
    obtain ⟨hlast, hfailures, hlost⟩ := ih (c := (c.process event).1) hrest hkeeps
    refine ⟨hlast, fun f hf => ?_, ?_⟩
    · rcases List.mem_append.1 hf with hf | hf
      · exact hclashes (mem_failures_playTime_iff.1 hf).2
      · exact hfailures f hf
    · have hlost' : lostLoads rest (PlayTimeState.process event c.playTime.state).state = 0 := hlost
      rw [lostLoads, hlost', if_neg fun hload => hclashes (.inl hload)]

/-! ### Main statement -/

/-- **Time stamps fail for the play time only in mixed sessions.** After any run:

1. the play time fails on an event exactly if the event ends a session of which one end is a moment with
   an offset and the other one a moment without;
2. the sessions are the games that have been loaded, but for those that such a session has kept from being
   counted;
3. the play time is refused on account of time stamps exactly while the running session is such a one;
4. if the readable time stamps of the run all have an offset, or none of them has one, then no event has
   failed, every game that has been loaded is counted, and the length of the running session can be asked
   for. -/
theorem playTime_of_offsets (events : List Event) :
    let c := empty.processAll events
    let loads := events.countP fun e : Event => e.kind = "LoadGame"
    (∀ event f, (.playTime, f) ∈ (c.process event).2 ↔
      f = .mixedOffsets ∧ Clashes event c.playTime.state) ∧
    c.playTime.state.sessions + lostLoads events {} = loads ∧
    (c.counters = .error .mixedOffsets ↔ c.playTime.state.isMixed = true) ∧
    (Uniform events → (∀ f, (.playTime, f) ∉ empty.failures events) ∧
      c.playTime.state.sessions = loads ∧
      ∃ seconds, c.playTime.state.sessionSeconds = .ok seconds) := by
  intro c loads
  have hsessions : c.playTime.state.sessions + lostLoads events {} = loads := by
    have hadd := sessions_add_lostLoads events {}
    rw [Nat.zero_add] at hadd
    rw [playTime_processAll]
    exact hadd
  refine ⟨fun event f => mem_failures_playTime_iff, hsessions, counters_eq_error_iff, ?_⟩
  · rintro ⟨b, hfits⟩
    obtain ⟨hkeeps, hfailures, hlost⟩ := keeps_processAll (c := empty)
      (fun e he => fits_stamp? (hfits e he)) ⟨fits_none, fits_none⟩
    refine ⟨hfailures, ?_, ?_⟩
    · rwa [show lostLoads events {} = 0 from hlost, Nat.add_zero] at hsessions
    · cases hseconds : c.playTime.state.sessionSeconds with
      | error f => exact absurd (sessionSeconds_eq_error_iff.1 hseconds).2 hkeeps.not_isMixed
      | ok seconds => exact ⟨seconds, rfl⟩

/-- An event of a kind with a time stamp. -/
def stampedEvent (kind stamp : Text) : Event :=
  .ofEntry [("timestamp", .text stamp), ("event", .text kind)] true none

/-- Two games, with a time stamp between them that cannot be read and one that is missing. -/
theorem playTime_of_offsets_unreadable :
    let events := [stampedEvent "LoadGame" "2024-01-01T10:00:00Z", stampedEvent "Music" "noon",
      stampedEvent "Music" "", stampedEvent "LoadGame" "2024-01-01T12:00:00+01:00"]
    let c := empty.processAll events
    Uniform events ∧ (∀ f, (.playTime, f) ∉ empty.failures events) ∧
      c.playTime.state.sessions = 2 ∧ ∃ seconds, c.playTime.state.sessionSeconds = .ok seconds := by
  intro events c
  have huniform : Uniform events := by
    refine ⟨true, fun e he t ht => ?_⟩
    have hall : ∀ e ∈ events, (Timestamp.ofJournal? e.timestamp).all fun t => t.offset.isSome := by
      decide +kernel
    have hoffset := hall e he
    rwa [ht] at hoffset
  obtain ⟨-, -, -, hregular⟩ := playTime_of_offsets events
  obtain ⟨hfailures, hsessions, hseconds⟩ := hregular huniform
  exact ⟨huniform, hfailures, hsessions.trans (by decide +kernel), hseconds⟩

/-- The time stamp between two games has no offset: the second game is not counted, and the play time
cannot be shown. -/
theorem counters_ne_mixedOffsets :
    let events := [stampedEvent "LoadGame" "2024-01-01T10:00:00Z",
      stampedEvent "Music" "2024-01-01T11:00:00"]
    let again := stampedEvent "LoadGame" "2024-01-01T12:00:00Z"
    let c := empty.processAll events
    let c' := (c.process again).1
    (.playTime, .mixedOffsets) ∈ (c.process again).2 ∧
      c'.playTime.state.sessions = 1 ∧ c'.counters = .error .mixedOffsets := by
  intro events again c c'
  have hmixed : c.playTime.state.isMixed = true := by decide +kernel
  refine ⟨mem_failures_playTime_iff.2 ⟨rfl, .inl ⟨by decide +kernel, hmixed⟩⟩, by rfl, ?_⟩
  exact counters_eq_error_iff.2 (by decide +kernel)

end Chronicle

end JournalHerald

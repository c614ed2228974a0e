import JournalHerald.Proofs.Chronicle.Sessions
import Mathlib.Data.List.Induction

/-!
# The play time of a run

What the play time shows after any events in order. Between the state of the sessions and what the events
tell stands a `Ledger`, which keeps what the sessions keep, but events in place of time stamps and natural
numbers in place of rounded ones. As long as the events come in order, nothing is rounded, because the sum
never gets ahead of the clock (`Ledger.Steady`).

* `Ledger.process_state` and `Ledger.counters_state` carry the ledger along with the sessions;
* `Ledger.sum_after` says what the ledger adds up to;
* `PlayTimeState.counters_afterAll` is what the sessions show after a run.
-/

namespace JournalHerald

namespace Chronicle

/-! ### Keeping a ledger -/

/-- What the sessions keep, in natural numbers. -/
structure Ledger where
  sessions : Nat := 0
  /-- The seconds of all finished sessions. -/
  closed : Nat := 0
  /-- The event that began the running session. -/
  start : Option Stamped := none
  /-- The latest event. -/
  last : Option Stamped := none

namespace Ledger

/-- The seconds of the running session so far. -/
def running (t : Ledger) : Nat :=
  match t.start with
  | some start => (t.last.getD start).seconds - start.seconds
  | none => 0

/-- The seconds of the running session until it ends, when more events follow. -/
def remaining (t : Ledger) (later : List Stamped) : Nat :=
  match t.start with
  | some start => (sessionEnd (t.last.getD start) later).seconds - start.seconds
  | none => 0

/-- The running session is over. -/
def close (t : Ledger) : Ledger :=
  { t with closed := t.closed + t.running, start := none }

/-- An event has happened. -/
def see (e : Stamped) (t : Ledger) : Ledger :=
  { t with last := some e }

/-- A session begins. -/
def begin (e : Stamped) (t : Ledger) : Ledger :=
  { t with sessions := t.sessions + 1, start := some e }

/-- What an event does to the ledger. -/
def next (t : Ledger) (e : Stamped) : Ledger :=
  if e.Loads then see e (begin e t.close)
  else if e.Quits then (see e t).close
  else see e t

/-- The ledger of a run. -/
def after (run : List Stamped) : Ledger :=
  run.foldl next {}

/-- The state of the sessions that the ledger stands for. -/
def state (t : Ledger) : PlayTimeState where
  sessions := t.sessions
  closedSeconds := .whole t.closed
  sessionStart := t.start.map (·.event.timestamp)
  lastSeen := t.last.map (·.event.timestamp)

/-- The sum does not get ahead of the clock, and a session does not begin after its latest event. -/
structure Steady (t : Ledger) : Prop where
  start_le : ∀ start, t.start = some start → ∃ last, t.last = some last ∧ start.seconds ≤ last.seconds
  sum_le : ∀ last, t.last = some last → t.closed + t.running ≤ last.seconds
  sum_eq : t.last = none → t.closed + t.running = 0

/-- An event does not come before the latest event of a ledger. -/
def Precedes (t : Ledger) (e : Stamped) : Prop :=
  ∀ last, t.last = some last → last.seconds ≤ e.seconds

variable {t : Ledger} {e : Stamped}

theorem running_of_start {start last : Stamped} (hstart : t.start = some start) (hlast : t.last = some last) :
    t.running = last.seconds - start.seconds := by
  simp [running, hstart, hlast]

theorem running_of_idle (h : t.start = none) : t.running = 0 := by
  simp [running, h]

@[simp] theorem running_close (t : Ledger) : t.close.running = 0 :=
  running_of_idle rfl

@[simp] theorem running_see_begin (e : Stamped) (t : Ledger) : (see e (begin e t)).running = 0 :=
  (running_of_start rfl rfl).trans (Nat.sub_self _)

theorem Steady.sum_le_next (h : t.Steady) (he : t.Precedes e) : t.closed + t.running ≤ e.seconds := by
  cases hlast : t.last with
  | none =>
    rw [h.sum_eq hlast]
    exact Nat.zero_le _
  | some last => exact (h.sum_le last hlast).trans (he last hlast)

/-- The sum stays below the bound that the calendar sets for it. -/
theorem Steady.sum_lt (h : t.Steady) : t.closed + t.running < 4000000 * 86400 := by
  cases hlast : t.last with
  | none =>
    rw [h.sum_eq hlast]
    decide
  | some last => exact (h.sum_le last hlast).trans_lt last.seconds_lt

theorem steady_empty : Steady {} where
  start_le _ h := by cases h
  sum_le _ h := by cases h
  sum_eq _ := rfl

theorem Steady.close (h : t.Steady) : t.close.Steady where
  start_le _ hstart := by cases hstart
  sum_le last hlast := by
    rw [running_close]
    exact h.sum_le last hlast
  sum_eq hlast := by
    rw [running_close]
    exact h.sum_eq hlast

/-- The running session grows by the time that has passed since the latest event. -/
theorem Steady.see (h : t.Steady) (he : t.Precedes e) : (t.see e).Steady where
  start_le start hstart := by
    obtain ⟨last, hlast, hle⟩ := h.start_le start hstart
    exact ⟨e, rfl, hle.trans (he last hlast)⟩
  sum_le last hlast := by
    cases hlast
    show t.closed + (t.see e).running ≤ e.seconds
    cases hstart : t.start with
    | none =>
      have hidle : (t.see e).running = 0 := running_of_idle hstart
      have hsum := h.sum_le_next he
      omega
    | some start =>
      obtain ⟨last, hlast, hle⟩ := h.start_le start hstart
      have hrunning : (t.see e).running = e.seconds - start.seconds := running_of_start hstart rfl
      have hsum := h.sum_le last hlast
      have hbefore := he last hlast
      rw [running_of_start hstart hlast] at hsum
      omega
  sum_eq hlast := by cases hlast

theorem Steady.begin (h : t.Steady) (he : t.Precedes e) :
    (Ledger.see e (begin e t)).Steady where
  start_le start hstart := by
    cases hstart
    exact ⟨e, rfl, Nat.le_refl _⟩
  sum_le last hlast := by
    cases hlast
    have hsum := h.sum_le_next he
    rw [running_see_begin]
    exact (Nat.le_add_right _ _).trans hsum
  sum_eq hlast := by cases hlast

/-- Events in order keep the sum behind the clock. -/
theorem Steady.next (h : t.Steady) (he : t.Precedes e) : (t.next e).Steady := by
  rw [Ledger.next]
  split
  · exact h.close.begin he
  · split
    · exact (h.see he).close
    · exact h.see he

/-! ### The ledger and the sessions -/

theorem state_empty : state {} = {} := by
  rw [state, Double.whole_zero]
  rfl

/-- The length of the running session is read off the two time stamps. -/
theorem sessionSeconds_state (h : t.Steady) :
    t.state.sessionSeconds = .ok (t.start.map fun _ => .whole t.running) := by
  cases hstart : t.start with
  | none => simp [PlayTimeState.sessionSeconds, state, hstart]
  | some start =>
    obtain ⟨last, hlast, hle⟩ := h.start_le start hstart
    have hspan : last.moment.since? start.moment = some (.ofWhole t.running) := by
      rw [running_of_start hstart hlast]
      exact last.isUniversal.since?_eq start.isUniversal hle
    have hsmall : t.running < 2 ^ 53 := by
      have := h.sum_lt
      omega
    simp [PlayTimeState.sessionSeconds, state, hstart, hlast, Stamped.ofJournal?_timestamp, hspan,
      Duration.totalSeconds_ofWhole hsmall, Double.atLeastZero_whole hsmall]

theorem closeSession_state (h : t.Steady) : t.state.closeSession = .ok t.close.state := by
  have hsum : t.closed + t.running < 2 ^ 53 := by
    have := h.sum_lt
    omega
  rw [PlayTimeState.closeSession, sessionSeconds_state h]
  cases hstart : t.start with
  | none => simp [state, close, running_of_idle hstart]
  | some start => simp [state, close, Double.add_whole hsum]

theorem see_state (e : Stamped) (t : Ledger) : PlayTimeState.see e.event t.state = (t.see e).state := by
  simp [PlayTimeState.see, e.stamp?_eq, state, see]

theorem openSession_state (h : t.Steady) (e : Stamped) :
    t.state.openSession e.event = .ok (begin e t.close).state := by
  rw [PlayTimeState.openSession, closeSession_state h]
  simp [e.stamp?_eq, state, begin]

/-- An event does to the sessions what it does to the ledger, and it does not fail. -/
theorem process_state (h : t.Steady) (he : t.Precedes e) :
    PlayTimeState.process e.event t.state = ⟨(t.next e).state, none⟩ := by
  rw [next]
  split
  · next hload =>
    rw [PlayTimeState.process, hload, Text.string?_ofString]
    simp only [openSession_state h e, see_state]
  · next hload =>
    split
    · next hquit =>
      rw [PlayTimeState.process, hquit, Text.string?_ofString]
      simp only [see_state, closeSession_state (h.see he)]
    · next hquit =>
      rw [PlayTimeState.process]
      split
      · exact absurd (Text.string?_eq_some_iff.1 ‹_›) hload
      · exact absurd (Text.string?_eq_some_iff.1 ‹_›) hquit
      · rw [see_state]

/-- A number of seconds that the ledger can reach is a span. -/
theorem span_whole {n : Nat} (h : n < 4000000 * 86400) :
    PlayTimeState.span (.whole n) = .ok (.ofWhole n) := by
  rw [PlayTimeState.span, Duration.ofSeconds?_whole (by omega)]

/-- The play time that a ledger shows. -/
def counters (t : Ledger) : Message.Counters where
  sessions := t.sessions
  total := .ofWhole (t.closed + t.running)
  current := t.start.map fun _ => .ofWhole t.running

theorem counters_state (h : t.Steady) : t.state.counters = .ok t.counters := by
  have hsum := h.sum_lt
  have hclosed : t.state.closedSeconds = .whole t.closed := rfl
  rw [PlayTimeState.counters, sessionSeconds_state h, hclosed]
  cases hstart : t.start with
  | none =>
    have hadd : Double.add (.whole t.closed) .zero = .whole (t.closed + t.running) := by
      rw [running_of_idle hstart, ← Double.whole_zero]
      exact Double.add_whole (by omega)
    simp only [Option.map_none, bind, Except.bind, Option.getD_none, hadd, span_whole hsum, counters, hstart]
    rfl
  | some start =>
    have hadd : Double.add (.whole t.closed) (.whole t.running) = .whole (t.closed + t.running) :=
      Double.add_whole (by omega)
    have hrunning : t.running < 4000000 * 86400 := by omega
    simp only [Option.map_some, bind, Except.bind, Option.getD_some, hadd, span_whole hsum,
      span_whole hrunning, counters, hstart]
    rfl

/-! ### The ledger of a run -/

variable {run : List Stamped}

theorem after_append_singleton (run : List Stamped) (e : Stamped) :
    after (run ++ [e]) = (after run).next e := by
  rw [after, List.foldl_append]
  rfl

theorem last_next (t : Ledger) (e : Stamped) : (t.next e).last = some e := by
  rw [next]
  split
  · rfl
  · split <;> rfl

theorem last_after (run : List Stamped) : (after run).last = run.getLast? := by
  induction run using List.reverseRecOn with
  | nil => rfl
  | append_singleton run e ih => rw [after_append_singleton, last_next, List.getLast?_concat]

theorem sessions_next (t : Ledger) (e : Stamped) :
    (t.next e).sessions = t.sessions + if e.Loads then 1 else 0 := by
  rw [next]
  split
  · rfl
  · split <;> rfl

theorem sessions_after (run : List Stamped) : (after run).sessions = run.countP fun e => e.Loads := by
  induction run using List.reverseRecOn with
  | nil => rfl
  | append_singleton run e ih => simp [after_append_singleton, sessions_next, ih, List.countP_append]

theorem start_next (t : Ledger) (e : Stamped) :
    (t.next e).start = if e.Loads then some e else if e.Quits then none else t.start := by
  rw [next]
  split
  · rfl
  · split <;> rfl

/-- A session runs if some game has been loaded and no shutdown has followed. -/
theorem isSome_start_after : (after run).start.isSome ↔ Unfinished run := by
  induction run using List.reverseRecOn with
  | nil => simp [after, Unfinished]
  | append_singleton run e ih =>
    rw [after_append_singleton, start_next, unfinished_append_singleton, ← ih]
    split
    · simp [*]
    · split <;> simp [*]

/-- The running session began with the game that was loaded last. -/
theorem getLast?_loads_of_start {load : Stamped} (h : (after run).start = some load) :
    (run.filter fun e => e.Loads).getLast? = some load := by
  induction run using List.reverseRecOn with
  | nil => cases h
  | append_singleton run e ih =>
    rw [after_append_singleton, start_next] at h
    split at h
    · cases h
      simp [List.filter_append, *]
    · split at h
      · cases h
      · simp [List.filter_append, *]

/-- From any ledger on, the sum grows to the rest of the running session and what is played after it. -/
theorem sum_foldl (t : Ledger) (run : List Stamped) :
    (run.foldl next t).closed + (run.foldl next t).running =
      t.closed + t.remaining run + totalPlayed run := by
  induction run generalizing t with
  | nil => rfl
  | cons e run ih =>
    rw [List.foldl_cons, ih, next]
    by_cases hload : e.Loads
    · have hrest : t.remaining (e :: run) = t.running := by
        simp [remaining, running, sessionEnd_of_loads hload]
      rw [if_pos hload, hrest, totalPlayed_of_loads hload]
      simp [see, begin, close, remaining, Nat.add_assoc]
    · rw [if_neg hload, totalPlayed_of_not_loads hload]
      by_cases hquit : e.Quits
      · have hrest : t.remaining (e :: run) = (see e t).running := by
          simp [remaining, running, see, sessionEnd_of_quits hquit]
        rw [if_pos hquit, hrest]
        simp [see, close, remaining]
      · have hrest : t.remaining (e :: run) = (see e t).remaining run := by
          simp [remaining, see, sessionEnd_of_neither hload hquit]
        rw [if_neg hquit, hrest]
        rfl

/-- The ledger adds up to what the events tell. -/
theorem sum_after (run : List Stamped) : (after run).closed + (after run).running = totalPlayed run := by
  rw [after, sum_foldl]
  simp [remaining]

theorem precedes_after {later : List Stamped} (h : Ordered (run ++ e :: later)) : (after run).Precedes e := by
  intro last hlast
  rw [last_after] at hlast
  exact (List.pairwise_append.1 h).2.2 last (List.mem_of_getLast? hlast) e List.mem_cons_self

theorem steady_after (h : Ordered run) : (after run).Steady := by
  induction run using List.reverseRecOn with
  | nil => exact steady_empty
  | append_singleton run e ih =>
    rw [after_append_singleton]
    exact (ih (List.pairwise_append.1 h).1).next (precedes_after h)

end Ledger

/-! ### Events of one day -/

/-- The moment on the first day of 3307 at a time of day, where hours and minutes start again from zero when
there are too many. -/
def newYear (hour minute : Nat) : Timestamp where
  year := 3307
  month := 1
  day := 1
  hour := hour % 24
  minute := minute % 60
  second := 0
  micro := 0
  offset := some .zero

theorem newYear_isUniversal (hour minute : Nat) : (newYear hour minute).IsUniversal where
  inRange := by
    have hoffset : (some Duration.zero).filter (fun o => Duration.perDay ≤ o.microseconds.natAbs) = none :=
      rfl
    have hday : ¬Calendar.monthLength 3307 1 < 1 := by decide
    have hhour : ¬23 < hour % 24 := by omega
    have hminute : ¬59 < minute % 60 := by omega
    simp only [Timestamp.fault?, newYear, hoffset]
    simp [hday, hhour, hminute]
  whole := rfl
  utc := rfl

/-- An event of a kind on that day. -/
def onNewYear (kind : Text) (hour minute : Nat) : Stamped where
  event := .ofEntry [("timestamp", .text (newYear hour minute).universal), ("event", .text kind)] false none
  moment := newYear hour minute
  isUniversal := newYear_isUniversal hour minute
  timestamp_eq := rfl

/-- Three games of that day. -/
def threeGames : List Stamped :=
  [onNewYear "LoadGame" 10 0, onNewYear "Shutdown" 10 30, onNewYear "Music" 11 0,
    onNewYear "LoadGame" 12 0, onNewYear "Music" 12 20, onNewYear "LoadGame" 13 0, onNewYear "Music" 14 0]

namespace PlayTimeState

/-- The sessions after some events. -/
def afterAll (events : List Event) : PlayTimeState :=
  events.foldl (fun state event => (process event state).state) {}

variable {run : List Stamped}

theorem afterAll_eq (h : Ordered run) : afterAll (run.map Stamped.event) = (Ledger.after run).state := by
  induction run using List.reverseRecOn with
  | nil => exact Ledger.state_empty.symm
  | append_singleton run e ih =>
    have hrun : Ordered run := (List.pairwise_append.1 h).1
    rw [List.map_append, afterAll, List.foldl_append, ← afterAll, ih hrun, Ledger.after_append_singleton]
    simp [Ledger.process_state (Ledger.steady_after hrun) (Ledger.precedes_after h)]

/-- What the sessions show after events in order. -/
theorem counters_afterAll (h : Ordered run) :
    (afterAll (run.map Stamped.event)).counters = .ok (Ledger.after run).counters := by
  rw [afterAll_eq h, Ledger.counters_state (Ledger.steady_after h)]

/-- What the sessions show after any events in order. They always show something. The sessions are the games
that have been loaded. A current session is shown exactly if some game has been loaded and no shutdown has
followed, and it is the time from the game loaded last to the last event. The total is the time for which
each game was played, so it never decreases and fits into the time from the first game loaded to the last
event. -/
theorem counters_eq_totalPlayed (run : List Stamped) (hordered : Ordered run) :
    ∃ c, (afterAll (run.map Stamped.event)).counters = .ok c ∧
      c.sessions = run.countP (fun e => e.Loads) ∧
      (c.current.isSome ↔ Unfinished run) ∧
      (∀ span, c.current = some span → ∃ load last, (run.filter fun e => e.Loads).getLast? = some load ∧
        run.getLast? = some last ∧ last.moment.since? load.moment = some span) ∧
      c.total = .ofWhole (totalPlayed run) ∧
      (∀ earlier, earlier <+: run → ∃ c', (afterAll (earlier.map Stamped.event)).counters = .ok c' ∧
        c'.total.microseconds ≤ c.total.microseconds) ∧
      (∀ load last, (run.filter fun e => e.Loads).head? = some load → run.getLast? = some last →
        ∃ span, last.moment.since? load.moment = some span ∧ c.total.microseconds ≤ span.microseconds) := by
  have hsteady := Ledger.steady_after hordered
  refine ⟨_, counters_afterAll hordered, ?sessions, ?running, ?current, ?total, ?monotone, ?bounded⟩
  case sessions => exact congrArg Nat.cast (Ledger.sessions_after run)
  case running => rw [Ledger.counters, Option.isSome_map, Ledger.isSome_start_after]
  case current =>
    intro span hspan
    obtain ⟨load, hload, rfl⟩ := Option.map_eq_some_iff.1 hspan
    obtain ⟨last, hlast, hle⟩ := hsteady.start_le load hload
    refine ⟨load, last, Ledger.getLast?_loads_of_start hload, Ledger.last_after run ▸ hlast, ?_⟩
    rw [Ledger.running_of_start hload hlast]
    exact last.isUniversal.since?_eq load.isUniversal hle
  case total => rw [Ledger.counters, Ledger.sum_after]
  case monotone =>
    rintro earlier ⟨later, rfl⟩
    have hearlier : Ordered earlier := (List.pairwise_append.1 hordered).1
    refine ⟨_, counters_afterAll hearlier, ?_⟩
    rw [Ledger.counters, Ledger.counters, Ledger.sum_after, Ledger.sum_after]
    exact Duration.ofWhole_le (totalPlayed_append_le hordered)
  case bounded =>
    intro load last hload hlast
    rw [List.head?_filter] at hload
    have hle := totalPlayed_le_of_find? hordered hload hlast
    refine ⟨_, last.isUniversal.since?_eq load.isUniversal (Nat.le_of_add_right_le hle), ?_⟩
    rw [Ledger.counters, Ledger.sum_after]
    exact Duration.ofWhole_le (Nat.le_sub_of_add_le' hle)

/-- Three games of one day: one ends with a shutdown, one with the game that is loaded next, and one still
runs. -/
theorem counters_eq_totalPlayed_threeGames : Ordered threeGames ∧
    ∃ c, (afterAll (threeGames.map Stamped.event)).counters = .ok c ∧ c.sessions = 3 ∧ c.current.isSome ∧
      c.total = .ofWhole (1800 + 1200 + 3600) := by
  have hordered : Ordered threeGames := by
    rw [Ordered]
    decide
  obtain ⟨c, hc, hsessions, hrunning, -, htotal, -⟩ := counters_eq_totalPlayed threeGames hordered
  refine ⟨hordered, c, hc, hsessions.trans (by decide), hrunning.2 ?_, htotal.trans (by decide)⟩
  exact ⟨threeGames.take 5, onNewYear "LoadGame" 13 0, [onNewYear "Music" 14 0], rfl, rfl, by decide⟩

end PlayTimeState

end Chronicle

end JournalHerald

import JournalHerald.Proofs.Chronicle.Histogram
import Mathlib.Data.List.Induction

/-!
# Trackers by themselves

A chronicle feeds every event to six trackers in turn. Nothing comes of it that would not come of each tracker
by itself: a tracker that fails on an event neither keeps the others from it nor changes what they make of it.
Only the history looks at others, namely at the state of the world, and because it comes last, that is the
state after the event.

* `Tracked.after` feeds events to one tracker, and `historyAfter` to the history, with the state of the world
  after each event;
* `alone` is a chronicle whose trackers are fed one by one, and `failure?` is why one of them fails on a further
  event;
* `Tracker.reads` are the trackers whose past matters to a tracker, and `processAll_eq_alone` puts it all
  together.
-/

namespace JournalHerald.Chronicle

/-! ### One tracker -/

/-- A tracker by itself, after events. What it fails on is passed over. -/
def Tracked.after {α : Type} (process : Event → α → Step α) (events : List Event) (tracked : Tracked α) :
    Tracked α :=
  events.foldl (fun tracked event => (tracked.update process event).1) tracked

theorem Tracked.after_append_singleton {α : Type} (process : Event → α → Step α) (events : List Event)
    (event : Event) (tracked : Tracked α) :
    tracked.after process (events ++ [event]) = ((tracked.after process events).update process event).1 :=
  List.foldl_concat ..

/-- The state of the world as three trackers have it. -/
def worldOf (commander : Tracked CommanderState) (location : Tracked LocationState) (ship : Tracked ShipState) :
    Except Failure World :=
  { empty with commander, location, ship }.world?

/-- The state of the world after events, when the trackers that it is put together from are fed one by one. -/
def worldAfter (c : Chronicle) (events : List Event) : Except Failure World :=
  worldOf (c.commander.after CommanderState.process events) (c.location.after LocationState.process events)
    (c.ship.after ShipState.process events)

/-- The history by itself, after some events that it has seen and some more. With each of these it is told the
state of the world after it. -/
def historyAfter (world : List Event → Except Failure World) (seen : List Event) :
    List Event → Tracked HistoryState → Tracked HistoryState
  | [], history => history
  | event :: events, history =>
    historyAfter world (seen ++ [event]) events
      (history.update (HistoryState.process (world (seen ++ [event]))) event).1

theorem historyAfter_append_singleton (world : List Event → Except Failure World) (seen events : List Event)
    (event : Event) (history : Tracked HistoryState) :
    historyAfter world seen (events ++ [event]) history =
      ((historyAfter world seen events history).update
        (HistoryState.process (world (seen ++ events ++ [event]))) event).1 := by
  induction events generalizing seen history with
  | nil => simp only [List.nil_append, List.append_nil, historyAfter]
  | cons e events ih => simp only [List.cons_append, historyAfter, ih, List.append_assoc, List.nil_append]

/-! ### All trackers -/

/-- The chronicle whose trackers have been fed the events one by one. -/
def alone (c : Chronicle) (events : List Event) : Chronicle where
  commander := c.commander.after CommanderState.process events
  location := c.location.after LocationState.process events
  ship := c.ship.after ShipState.process events
  missions := c.missions.after MissionState.process events
  playTime := c.playTime.after PlayTimeState.process events
  history := historyAfter c.worldAfter [] events c.history

/-- Why a tracker by itself fails on an event, if it does. -/
def failure? (c : Chronicle) (events : List Event) (event : Event) : Tracker → Option Failure
  | .commander => ((c.alone events).commander.update CommanderState.process event).2
  | .location => ((c.alone events).location.update LocationState.process event).2
  | .ship => ((c.alone events).ship.update ShipState.process event).2
  | .missions => ((c.alone events).missions.update MissionState.process event).2
  | .playTime => ((c.alone events).playTime.update PlayTimeState.process event).2
  | .history =>
    ((c.alone events).history.update (HistoryState.process (c.worldAfter (events ++ [event]))) event).2

/-- All trackers, in the order in which they see an event. -/
def Tracker.all : List Tracker :=
  [.commander, .location, .ship, .missions, .playTime, .history]

/-- The trackers whose states a tracker looks at. -/
def Tracker.reads : Tracker → List Tracker
  | .history => [.commander, .location, .ship, .history]
  | t => [t]

/-- Two chronicles have a tracker in the same state. -/
def Tracker.Agree (c c' : Chronicle) : Tracker → Prop
  | .commander => c.commander = c'.commander
  | .location => c.location = c'.location
  | .ship => c.ship = c'.ship
  | .missions => c.missions = c'.missions
  | .playTime => c.playTime = c'.playTime
  | .history => c.history = c'.history

/-- The state of the world for the history is the one after the event. -/
theorem world?_processFacts_alone (c : Chronicle) (events : List Event) (event : Event) :
    ((c.alone events).processFacts event).1.world? = c.worldAfter (events ++ [event]) := by
  simp only [worldAfter, Tracked.after_append_singleton]
  rfl

theorem process_alone (c : Chronicle) (events : List Event) (event : Event) :
    ((c.alone events).process event).1 = c.alone (events ++ [event]) := by
  have hworld := world?_processFacts_alone c events event
  simp only [alone, Tracked.after_append_singleton, historyAfter_append_singleton, List.nil_append, ← hworld]
  rfl

theorem processAll_alone (c : Chronicle) (events : List Event) : c.processAll events = c.alone events := by
  induction events using List.reverseRecOn with
  | nil => rfl
  | append_singleton events event ih => rw [processAll_append, ih, ← process_alone]; rfl

theorem failures_alone (c : Chronicle) (events : List Event) (event : Event) :
    ((c.alone events).process event).2 =
      Tracker.all.filterMap fun t => (c.failure? events event t).map fun failure => (t, failure) := by
  rw [List.filterMap_eq_flatMap_toList]
  simp only [Tracker.all, List.flatMap_cons, List.flatMap_nil, List.append_nil, failure?,
    ← world?_processFacts_alone, ← List.append_assoc]
  rfl

/-- A tracker fails on an event if it fails by itself on it. -/
theorem mem_failures_iff {c : Chronicle} {event : Event} {t : Tracker} {failure : Failure} :
    (t, failure) ∈ (c.process event).2 ↔ c.failure? [] event t = some failure := by
  have hfailures : (c.process event).2 =
      Tracker.all.filterMap fun t => (c.failure? [] event t).map fun failure => (t, failure) :=
    failures_alone c [] event
  rw [hfailures, List.mem_filterMap]
  constructor
  · rintro ⟨u, -, hu⟩
    obtain ⟨f, hf, heq⟩ := Option.map_eq_some_iff.1 hu
    cases heq
    exact hf
  · exact fun h => ⟨t, by cases t <;> decide, by rw [h]; rfl⟩

/-- A tracker by itself depends only on the trackers that it looks at. -/
theorem agree_alone {c c' : Chronicle} {t : Tracker} (h : ∀ u ∈ t.reads, Tracker.Agree c c' u)
    (events : List Event) : Tracker.Agree (c.alone events) (c'.alone events) t := by
  cases t with
  | history =>
    obtain ⟨hcommander, hlocation, hship, hhistory⟩ : c.commander = c'.commander ∧ c.location = c'.location ∧
        c.ship = c'.ship ∧ c.history = c'.history := by
      simpa [Tracker.reads, Tracker.Agree] using h
    have hworld : c.worldAfter = c'.worldAfter := by
      funext events
      simp only [worldAfter, hcommander, hlocation, hship]
    simp only [Tracker.Agree, alone, hworld, hhistory]
  | commander | location | ship | missions | playTime =>
    have hsame := h _ (List.mem_singleton.2 rfl)
    simp only [Tracker.Agree] at hsame
    simp only [Tracker.Agree, alone, hsame]

/-! ### Main statement -/

/-- **The trackers do not disturb one another.** After any events:

1. every tracker is in the state, with the time stamp, that it comes to by itself, its own failures passed
   over; the history is told the state of the world after each event, put together from three trackers by
   themselves;
2. on a further event just those trackers fail that fail on it by themselves, for the same reasons;
3. whatever the trackers are that a tracker does not look at, and whether they fail or not, makes no
   difference to it. -/
theorem processAll_eq_alone (c : Chronicle) (events : List Event) :
    c.processAll events = c.alone events ∧
    (∀ event, ((c.processAll events).process event).2 =
      Tracker.all.filterMap fun t => (c.failure? events event t).map fun failure => (t, failure)) ∧
    ∀ t c', (∀ u ∈ t.reads, Tracker.Agree c c' u) →
      Tracker.Agree (c.processAll events) (c'.processAll events) t := by
  refine ⟨processAll_alone c events, fun event => ?_, fun t c' h => ?_⟩
  · rw [processAll_alone]
    exact failures_alone c events event
  · rw [processAll_alone, processAll_alone]
    exact agree_alone h events

/-- With a commander who is a number the history fails on every docking. The missions do not notice. -/
theorem processAll_eq_alone_number :
    let c : Chronicle := { empty with commander := ⟨{ name := .int 5 }, ""⟩ }
    ((c.processAll [docking]).process docking).2.map Prod.fst = [.history] ∧
      (∀ u ∈ Tracker.reads .missions, Tracker.Agree empty c u) ∧
      Tracker.Agree (empty.processAll [docking]) (c.processAll [docking]) .missions := by
  intro c
  have hreads : ∀ u ∈ Tracker.reads .missions, Tracker.Agree empty c u := by
    simp only [Tracker.reads, List.mem_singleton, forall_eq]
    rfl
  exact ⟨rfl, hreads, (processAll_eq_alone empty [docking]).2.2 .missions c hreads⟩

end JournalHerald.Chronicle

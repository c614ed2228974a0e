import JournalHerald.Proofs.Chronicle.Ledger

/-!
# Starts of the game

Every start of the game begins a journal file with a header, and a game is loaded some time later. A session
without a shutdown ends only when the next game is loaded, with the last event until then. That event is one
of the next start, so the time between the two starts counts as played.

* `GameStart.played` is what a start by itself tells of its session, `GameStart.gap` what the next one adds;
* `counters_gameStarts` is the play time that is shown.
-/

namespace JournalHerald

namespace Chronicle

/-- A start of the game. -/
structure GameStart where
  header : Stamped
  /-- What happens before a game is loaded. -/
  opening : List Stamped
  load : Stamped
  /-- What happens in the game. It is closed with a shutdown, or not at all. -/
  rest : List Stamped
  header_kind : header.event.kind = "Fileheader"
  load_loads : load.Loads
  opening_kinds : ∀ e ∈ opening, ¬e.Loads ∧ e.event.kind ≠ "Fileheader"
  rest_kinds : ∀ e ∈ rest, ¬e.Loads ∧ e.event.kind ≠ "Fileheader"

namespace GameStart

variable {g next : GameStart} {later : List Stamped} {starts : List GameStart}

/-- The events of a start, in order. -/
def events (g : GameStart) : List Stamped :=
  g.header :: (g.opening ++ g.load :: g.rest)

/-- The session has been closed with a shutdown. -/
def IsClosed (g : GameStart) : Prop :=
  ∃ e ∈ g.rest, e.Quits

instance (g : GameStart) : Decidable g.IsClosed :=
  inferInstanceAs (Decidable (∃ e ∈ g.rest, e.Quits))

/-- The last event of a start. -/
def last (g : GameStart) : Stamped :=
  g.rest.getLastD g.load

/-- The seconds from the game that is loaded to its shutdown, or else to the last event of the start. -/
def played (g : GameStart) : Nat :=
  (sessionEnd g.load g.rest).seconds - g.load.seconds

/-- The seconds that the next start adds to a session without a shutdown: those up to the last event before
its game is loaded, or up to a shutdown before that. -/
def gap (g next : GameStart) : Nat :=
  if g.IsClosed then 0 else (sessionEnd next.header next.opening).seconds - g.last.seconds

theorem header_not_loads (g : GameStart) : ¬g.header.Loads := by
  rw [Stamped.Loads, g.header_kind]
  decide

theorem header_not_quits (g : GameStart) : ¬g.header.Quits := by
  rw [Stamped.Quits, g.header_kind]
  decide

theorem totalPlayed_events_append (g : GameStart) (later : List Stamped) :
    totalPlayed (g.events ++ later) =
      (sessionEnd g.load (g.rest ++ later)).seconds - g.load.seconds + totalPlayed later := by
  have hsplit : g.events ++ later = (g.header :: g.opening) ++ g.load :: (g.rest ++ later) := by
    simp [events]
  have hopening : ∀ e ∈ g.header :: g.opening, ¬e.Loads := by
    intro e he
    obtain rfl | he := List.mem_cons.1 he
    · exact g.header_not_loads
    · exact (g.opening_kinds e he).1
  rw [hsplit, totalPlayed_append_of_forall_not_loads hopening, totalPlayed_of_loads g.load_loads,
    totalPlayed_append_of_forall_not_loads fun e he => (g.rest_kinds e he).1]

theorem neither_of_not_isClosed (h : ¬g.IsClosed) : ∀ e ∈ g.rest, ¬e.Loads ∧ ¬e.Quits :=
  fun e he => ⟨(g.rest_kinds e he).1, fun hquit => h ⟨e, he, hquit⟩⟩

/-- A session without a shutdown ends in the opening of the next start. -/
theorem sessionEnd_of_not_isClosed (h : ¬g.IsClosed) (later : List Stamped) :
    sessionEnd g.load (g.rest ++ (next.events ++ later)) = sessionEnd next.header next.opening := by
  have hsplit : next.events ++ later =
      next.header :: (next.opening ++ next.load :: (next.rest ++ later)) := by
    simp [events]
  rw [sessionEnd_append_of_neither (neither_of_not_isClosed h), hsplit,
    sessionEnd_of_neither next.header_not_loads next.header_not_quits,
    sessionEnd_append_of_loads next.load_loads]

theorem played_of_not_isClosed (h : ¬g.IsClosed) : g.played = g.last.seconds - g.load.seconds := by
  have hend := sessionEnd_append_of_neither (neither_of_not_isClosed h) g.load []
  rw [List.append_nil] at hend
  rw [played, hend, sessionEnd_nil, last]

theorem last_mem (g : GameStart) : g.last ∈ g.load :: g.rest :=
  List.getLastD_mem_cons

/-- The length of a session that another start follows. -/
theorem length_session (h : Ordered (g.events ++ (next.events ++ later))) :
    (sessionEnd g.load (g.rest ++ (next.events ++ later))).seconds - g.load.seconds =
      g.played + g.gap next := by
  by_cases hclosed : g.IsClosed
  · rw [sessionEnd_append_of_quits hclosed, played, gap, if_pos hclosed, Nat.add_zero]
  · obtain ⟨hevents, -, hacross⟩ := List.pairwise_append.1 h
    have hload : g.load.seconds ≤ g.last.seconds := by
      have hsession : Ordered (g.load :: g.rest) := hevents.sublist (by simp [events])
      obtain heq | hmem := List.mem_cons.1 g.last_mem
      · rw [heq]
      · exact List.rel_of_pairwise_cons hsession hmem
    have hlast : g.last.seconds ≤ (sessionEnd next.header next.opening).seconds := by
      have hbefore : g.last ∈ g.events :=
        List.mem_cons_of_mem _ (List.mem_append_right _ g.last_mem)
      have hafter : sessionEnd next.header next.opening ∈ next.events ++ later := by
        rw [events, ← List.cons_append, List.append_assoc]
        exact List.mem_append_left _ (sessionEnd_mem _ _)
      exact hacross _ hbefore _ hafter
    rw [sessionEnd_of_not_isClosed hclosed, played_of_not_isClosed hclosed, gap, if_neg hclosed]
    omega

/-- The play time of starts one after the other. -/
theorem totalPlayed_flatMap (h : Ordered (starts.flatMap events)) :
    totalPlayed (starts.flatMap events) =
      (starts.map played).sum + (List.zipWith gap starts starts.tail).sum := by
  induction starts with
  | nil => rfl
  | cons g starts ih =>
    rw [List.flatMap_cons] at h ⊢
    rw [totalPlayed_events_append, ih (List.pairwise_append.1 h).2.1]
    cases starts with
    | nil =>
      have hplayed : ([g].map played).sum = g.played := List.sum_singleton
      rw [hplayed, List.flatMap_nil, List.append_nil]
      rfl
    | cons next starts =>
      have hplayed : ((g :: next :: starts).map played).sum =
          g.played + ((next :: starts).map played).sum := List.sum_cons
      have hgap : (List.zipWith gap (g :: next :: starts) (g :: next :: starts).tail).sum =
          g.gap next + (List.zipWith gap (next :: starts) (next :: starts).tail).sum := List.sum_cons
      rw [List.flatMap_cons] at h ⊢
      rw [length_session h, hplayed, hgap]
      exact Nat.add_add_add_comm ..

end GameStart

open GameStart in
/-- What the sessions show after starts of the game one after the other. To what each start by itself tells
of its session, the start after it adds the time in between, unless the session has been closed. So the
former alone is shown exactly if no time has passed in between. -/
theorem counters_gameStarts (starts : List GameStart) (hordered : Ordered (starts.flatMap events)) :
    ∃ c, (PlayTimeState.afterAll ((starts.flatMap events).map Stamped.event)).counters = .ok c ∧
      c.total = .ofWhole ((starts.map played).sum + (List.zipWith gap starts starts.tail).sum) ∧
      (c.total = .ofWhole (starts.map played).sum ↔
        ∀ n ∈ List.zipWith gap starts starts.tail, n = 0) := by
  have htotal : (Ledger.after (starts.flatMap events)).counters.total =
      .ofWhole ((starts.map played).sum + (List.zipWith gap starts starts.tail).sum) := by
    rw [Ledger.counters, Ledger.sum_after, totalPlayed_flatMap hordered]
  refine ⟨_, PlayTimeState.counters_afterAll hordered, htotal, ?_⟩
  rw [htotal, Duration.ofWhole_inj, Nat.add_eq_left, List.sum_eq_zero_iff_forall_eq_nat]

/-- The game breaks off at eleven without a shutdown. -/
def brokenOff : GameStart where
  header := onNewYear "Fileheader" 10 0
  opening := []
  load := onNewYear "LoadGame" 10 0
  rest := [onNewYear "Music" 11 0]
  header_kind := rfl
  load_loads := rfl
  opening_kinds := List.forall_mem_nil _
  rest_kinds := List.forall_mem_singleton.2 (by decide)

/-- At eight in the evening the game is started again. -/
def startedAgain : GameStart where
  header := onNewYear "Fileheader" 20 0
  opening := []
  load := onNewYear "LoadGame" 20 5
  rest := []
  header_kind := rfl
  load_loads := rfl
  opening_kinds := List.forall_mem_nil _
  rest_kinds := List.forall_mem_nil _

def crash : List GameStart :=
  [brokenOff, startedAgain]

theorem crash_ordered : Ordered (crash.flatMap GameStart.events) := by
  rw [Ordered]
  decide

theorem counters_gameStarts_crash : Ordered (crash.flatMap GameStart.events) ∧
    ∃ c, (PlayTimeState.afterAll ((crash.flatMap GameStart.events).map Stamped.event)).counters = .ok c ∧
      c.total = .ofWhole (3600 + 32400) := by
  obtain ⟨c, hc, htotal, -⟩ := counters_gameStarts crash crash_ordered
  exact ⟨crash_ordered, c, hc, htotal.trans (by decide)⟩

/-- The nine hours between the two starts count as played, where one hour was. -/
theorem counters_ne_played_crash :
    (crash.map GameStart.played).sum = 3600 ∧
      ∃ c, (PlayTimeState.afterAll ((crash.flatMap GameStart.events).map Stamped.event)).counters = .ok c ∧
        c.total ≠ .ofWhole (crash.map GameStart.played).sum := by
  have hplayed : (crash.map GameStart.played).sum = 3600 := by decide
  refine ⟨hplayed, _, PlayTimeState.counters_afterAll crash_ordered, ?_⟩
  rw [Ledger.counters, Ledger.sum_after, hplayed]
  decide

end Chronicle

end JournalHerald

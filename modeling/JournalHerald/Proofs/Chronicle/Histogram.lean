import JournalHerald.Proofs.Chronicle.Occurrences
import Mathlib.Data.List.Nodup

/-!
# The history as a histogram

The history keeps how many events there were in each context, and not the events. What it answers
is still a count of events: of those occurrences that show what a filter wants.

* `Histogram` ties the rows of a history to the contexts counted in it;
* `count_eq_countP_occurrences` is the statement about every run.
-/

namespace JournalHerald

namespace Chronicle

theorem Context.meets_criteria (filter : Filter) (o : Occurrence) :
    o.context.meets (HistoryState.wanted filter.criteria) = decide (o.Meets filter) := by
  rw [Bool.eq_iff_iff, decide_eq_true_iff, Occurrence.meets_iff]
  simp only [Context.meets, HistoryState.wanted, Filter.criteria, List.all_map, List.all_eq_true,
    List.mem_filter, List.mem_map, Function.comp_apply, beq_iff_eq, Bool.not_eq_true']
  constructor
  · intro h a ha
    exact h (a, filter a) ⟨⟨a, a.mem_all, rfl⟩, ha⟩
  · rintro h _ ⟨⟨a, -, rfl⟩, ha⟩
    exact h a ha

theorem Context.decide_describes (c : Context) (o : Occurrence) :
    decide (c.Describes o) = (o.context == c) := by
  rw [Bool.eq_iff_iff, decide_eq_true_iff, describes_iff, beq_iff_eq]

/-! ### Rows -/

namespace HistoryState

section Tally

variable {context c : Context} {rows : List (Context × Nat)}

theorem tally_head (context : Context) (n : Nat) (rows : List (Context × Nat)) :
    tally context ((context, n) :: rows) = (context, n + 1) :: rows :=
  if_pos rfl

theorem tally_tail (h : c ≠ context) (n : Nat) (rows : List (Context × Nat)) :
    tally context ((c, n) :: rows) = (c, n) :: tally context rows :=
  if_neg h

/-- One more event raises the sum exactly if its context is among those summed up. -/
theorem amount_tally (p : Context → Bool) (context : Context) (rows : List (Context × Nat)) :
    amount p (tally context rows) = amount p rows + if p context then 1 else 0 := by
  induction rows with
  | nil =>
    rw [tally, amount_cons]
    exact Nat.add_comm ..
  | cons row rows ih =>
    rcases row with ⟨c, n⟩
    by_cases he : c = context
    · subst he
      rw [tally_head, amount_cons, amount_cons]
      split <;> omega
    · rw [tally_tail he, amount_cons, amount_cons, ih]
      omega

theorem mem_keys_tally :
    c ∈ (tally context rows).map Prod.fst ↔ c = context ∨ c ∈ rows.map Prod.fst := by
  induction rows with
  | nil => simp [tally]
  | cons row rows ih =>
    rcases row with ⟨d, n⟩
    by_cases he : d = context
    · subst he
      simp [tally_head]
    · rw [tally_tail he, List.map_cons, List.mem_cons, ih, List.map_cons, List.mem_cons]
      exact or_left_comm

theorem nodup_keys_tally (h : (rows.map Prod.fst).Nodup) :
    ((tally context rows).map Prod.fst).Nodup := by
  induction rows with
  | nil => simp [tally]
  | cons row rows ih =>
    rcases row with ⟨d, n⟩
    rcases List.nodup_cons.1 h with ⟨hd, hrows⟩
    by_cases he : d = context
    · subst he
      rw [tally_head]
      exact List.nodup_cons.2 ⟨hd, hrows⟩
    · rw [tally_tail he]
      refine List.nodup_cons.2 ⟨fun hmem => ?_, ih hrows⟩
      rcases mem_keys_tally.1 hmem with hd' | hmem
      · exact he hd'
      · exact hd hmem

theorem pos_of_mem_tally (h : ∀ row ∈ rows, 0 < row.2) : ∀ row ∈ tally context rows, 0 < row.2 := by
  induction rows with
  | nil => simp [tally]
  | cons row rows ih =>
    rcases row with ⟨d, n⟩
    rcases List.forall_mem_cons.1 h with ⟨hn, hrows⟩
    by_cases he : d = context
    · subst he
      rw [tally_head]
      exact List.forall_mem_cons.2 ⟨Nat.succ_pos n, hrows⟩
    · rw [tally_tail he]
      exact List.forall_mem_cons.2 ⟨hn, ih hrows⟩

end Tally

/-- A context without a row adds nothing. -/
theorem amount_eq_zero {context : Context} {rows : List (Context × Nat)}
    (h : context ∉ rows.map Prod.fst) : amount (· == context) rows = 0 := by
  induction rows with
  | nil => rfl
  | cons row rows ih =>
    rw [List.map_cons, List.mem_cons, not_or] at h
    rcases h with ⟨hne, hrows⟩
    rcases row with ⟨c, n⟩
    simp [amount_cons, Ne.symm hne, ih hrows]

/-- Where a context has one row, the number in it is the sum for that context. -/
theorem amount_eq_of_mem {context : Context} {n : Nat} {rows : List (Context × Nat)}
    (nodup : (rows.map Prod.fst).Nodup) (hmem : (context, n) ∈ rows) :
    amount (· == context) rows = n := by
  induction rows with
  | nil => cases hmem
  | cons row rows ih =>
    obtain ⟨hrow, hrows⟩ := List.nodup_cons.1 nodup
    rcases row with ⟨c, m⟩
    rw [amount_cons]
    rcases List.mem_cons.1 hmem with heq | hmem
    · cases heq
      simp [amount_eq_zero hrow]
    · have hne : c ≠ context := by
        rintro rfl
        exact hrow (List.mem_map.2 ⟨_, hmem, rfl⟩)
      simp [hne, ih hrows hmem]

end HistoryState

open HistoryState

/-- The rows count these contexts. -/
structure Histogram (rows : List (Context × Nat)) (contexts : List Context) : Prop where
  nodup : (rows.map Prod.fst).Nodup
  pos : ∀ row ∈ rows, 0 < row.2
  amount_eq : ∀ p, HistoryState.amount p rows = contexts.countP p

namespace Histogram

theorem nil : Histogram [] [] where
  nodup := List.nodup_nil
  pos := by simp
  amount_eq _ := rfl

theorem tally {rows : List (Context × Nat)} {contexts : List Context} (h : Histogram rows contexts)
    (context : Context) : Histogram (HistoryState.tally context rows) (contexts ++ [context]) where
  nodup := nodup_keys_tally h.nodup
  pos := pos_of_mem_tally h.pos
  amount_eq p := by
    rw [amount_tally, h.amount_eq, List.countP_append, List.countP_singleton]

variable {rows : List (Context × Nat)} {contexts : List Context}

theorem eq_count_of_mem (h : Histogram rows contexts) {row : Context × Nat} (hrow : row ∈ rows) :
    row.2 = contexts.count row.1 := by
  rw [← amount_eq_of_mem h.nodup hrow, h.amount_eq]
  rfl

/-- Every context that is counted has exactly one row. -/
theorem count_keys_eq_one (h : Histogram rows contexts) {context : Context}
    (hmem : context ∈ contexts) : (rows.map Prod.fst).count context = 1 := by
  refine List.count_eq_one_of_mem h.nodup (not_imp_comm.1 amount_eq_zero ?_)
  rw [h.amount_eq]
  exact Nat.ne_of_gt (List.count_pos_iff.2 hmem)

end Histogram

/-! ### Runs -/

theorem processAll_append (events later : List Event) (c : Chronicle) :
    c.processAll (events ++ later) = (c.processAll events).processAll later :=
  List.foldl_append

/-- What an event does to the rows of the history. No other tracker looks at the history, so the
state of the world is the one that the whole event leads to. -/
theorem rows_process (event : Event) (c : Chronicle) :
    (c.process event).1.history.state.rows =
      match c.occurrence? event with
      | some o => HistoryState.tally o.context c.history.state.rows
      | none => c.history.state.rows := by
  have hprocess : (c.process event).1.history.state =
      (HistoryState.process (c.process event).1.world? event c.history.state).state := rfl
  rw [hprocess]
  unfold HistoryState.process occurrence?
  by_cases hkind : event.kind = ""
  · rw [if_pos hkind, if_pos hkind]
  · rw [if_neg hkind, if_neg hkind]
    cases (c.process event).1.world? <;> rfl

theorem histogram_processAll {c : Chronicle} {earlier : List Context}
    (h : Histogram c.history.state.rows earlier) (events : List Event) :
    Histogram (c.processAll events).history.state.rows
      (earlier ++ (c.occurrences events).map Occurrence.context) := by
  induction events generalizing c earlier with
  | nil => simpa [processAll, occurrences] using h
  | cons event events ih =>
    rw [occurrences, List.map_append, ← List.append_assoc]
    refine ih (c := (c.process event).1) ?_
    rw [rows_process]
    cases c.occurrence? event with
    | none => simpa using h
    | some o => exact h.tally o.context

/-- The rows after a run count the contexts of its occurrences. -/
theorem histogram_empty (events : List Event) :
    Histogram (empty.processAll events).history.state.rows
      ((empty.occurrences events).map Occurrence.context) :=
  histogram_processAll (c := empty) Histogram.nil events

theorem count_criteria (events : List Event) (filter : Filter) :
    (empty.processAll events).count filter.criteria =
      (empty.occurrences events).countP fun o => decide (o.Meets filter) := by
  rw [Chronicle.count, HistoryState.count, (histogram_empty events).amount_eq, List.countP_map]
  congr 1
  funext o
  exact Context.meets_criteria filter o

/-- **The history counts the events of a run.** For every filter, the answer is the number of
events that have a kind, that leave the state of the world known, and that show for each attribute
what the filter wants of it. Each such event is in exactly one row, a row tells how many events
there were that it describes, which is at least one, and one more event raises the answer to a
filter by one at most. -/
theorem count_eq_countP_occurrences (events : List Event) :
    (∀ filter : Filter, (empty.processAll events).count filter.criteria =
      (empty.occurrences events).countP fun o => decide (o.Meets filter)) ∧
    (∀ o ∈ empty.occurrences events,
      (empty.processAll events).history.state.rows.countP
        (fun row => decide (row.1.Describes o)) = 1) ∧
    (∀ row ∈ (empty.processAll events).history.state.rows,
      row.2 = (empty.occurrences events).countP (fun o => decide (row.1.Describes o)) ∧
        0 < row.2) ∧
    ∀ (event : Event) (filter : Filter), ∃ n ≤ 1,
      (empty.processAll (events ++ [event])).count filter.criteria =
        (empty.processAll events).count filter.criteria + n := by
  have hist := histogram_empty events
  refine ⟨count_criteria events, fun o ho => ?_, fun row hrow => ⟨?_, hist.pos row hrow⟩, ?_⟩
  · rw [← hist.count_keys_eq_one (List.mem_map_of_mem ho), List.count, List.countP_map]
    congr 1
    funext row
    exact (Context.decide_describes row.1 o).trans BEq.comm
  · rw [hist.eq_count_of_mem hrow, List.count, List.countP_map]
    congr 1
    funext o
    exact (Context.decide_describes row.1 o).symm
  · intro event filter
    have hrows := rows_process event (empty.processAll events)
    rw [Chronicle.count, Chronicle.count, HistoryState.count, HistoryState.count, processAll_append,
      show (empty.processAll events).processAll [event] = ((empty.processAll events).process event).1
        from rfl, hrows]
    cases occurrence? event (empty.processAll events) with
    | none => exact ⟨0, Nat.zero_le 1, rfl⟩
    | some o =>
      refine ⟨_, ?_, amount_tally ..⟩
      split <;> omega

/-- A commander comes into the game in a Python and jumps to another system. Two bounties follow: one
tells a blank system and no ship, the other one tells the system and the ship that was lost. -/
def hunt : List Event :=
  [.ofEntry [("event", .text "LoadGame"), ("Commander", .text "Ada"), ("Ship", .text "Python")]
      true none,
    .ofEntry [("event", .text "FSDJump"), ("StarSystem", .text "Diso")] false none,
    .ofEntry [("event", .text "Bounty"), ("StarSystem", .text " \t")] false none,
    .ofEntry [("event", .text "Bounty"), ("starsystem", .text " DISO"), ("Ship", .text "anaconda")]
      false none]

/-- A filter finds both bounties, whatever the letter case of what it wants and the blanks around it:
one was in the system of the world, and the other one tells the system itself. Only the first one was
in the ship of the world. -/
theorem count_eq_countP_occurrences_hunt :
    let filter (ship : Value) : Filter := fun
      | .event => .text " BOUNTY "
      | .commander => .text "ADA"
      | .starSystem => .text "diso\n"
      | .ship => ship
      | _ => .null
    let c := empty.processAll hunt
    (c.count (filter .null).criteria = 2 ∧ c.count (filter (.ship .python)).criteria = 1 ∧
      c.count (filter (.text "Anaconda")).criteria = 1 ∧ c.count (filter (.text " ")).criteria = 0) ∧
    (∀ ship, (empty.occurrences hunt).countP (fun o => decide (o.Meets (filter ship))) =
      c.count (filter ship).criteria) ∧
    ((empty.occurrences hunt).length = 4 ∧ ∀ o ∈ empty.occurrences hunt,
      c.history.state.rows.countP (fun row => decide (row.1.Describes o)) = 1) ∧
    c.history.state.rows.length = 4 ∧ ∀ row ∈ c.history.state.rows, 0 < row.2 := by
  intro filter c
  obtain ⟨hfilter, hone, hrows, -⟩ := count_eq_countP_occurrences hunt
  refine ⟨?_, fun ship => (hfilter (filter ship)).symm, ⟨?_, hone⟩, ?_,
    fun row hrow => (hrows row hrow).2⟩
  all_goals decide +kernel

/-- A commander comes into the game. -/
def loading : Event :=
  .ofEntry [("event", .text "LoadGame"), ("Commander", .text "Ada")] true none

/-- The commander docks at a station. -/
def docking : Event :=
  .ofEntry [("event", .text "Docked"), ("StationName", .text "Lave")] false none

end Chronicle

end JournalHerald

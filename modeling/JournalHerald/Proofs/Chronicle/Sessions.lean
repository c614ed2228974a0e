import JournalHerald.Chronicle
import JournalHerald.Proofs.Time.Universal
import Mathlib.Data.List.Basic

/-!
# Sessions

The play time is kept as a sum of lengths and the time stamps of two events. Here it is told from the events
alone: every game that is loaded is played until its session ends (`sessionEnd`), and the play time is the
sum of these lengths (`totalPlayed`).

* `Stamped` is an event with a whole second in universal time;
* `totalPlayed_append_le` and `totalPlayed_le_of_find?` say that the play time never decreases and never
  exceeds the time that has passed.
-/

namespace JournalHerald

namespace Chronicle

/-- An event with a time stamp to the second, in universal time. -/
structure Stamped where
  event : Event
  moment : Timestamp
  isUniversal : moment.IsUniversal
  timestamp_eq : event.timestamp = moment.universal

namespace Stamped

/-- When the event happened, in seconds. -/
def seconds (e : Stamped) : Nat :=
  e.moment.wallSeconds

/-- The event begins a session. -/
def Loads (e : Stamped) : Prop :=
  e.event.kind = "LoadGame"

/-- The event ends a session. -/
def Quits (e : Stamped) : Prop :=
  e.event.kind = "Shutdown"

instance : DecidablePred Loads := fun e => inferInstanceAs (Decidable (e.event.kind = "LoadGame"))

instance : DecidablePred Quits := fun e => inferInstanceAs (Decidable (e.event.kind = "Shutdown"))

variable {e : Stamped}

theorem not_quits_of_loads (h : e.Loads) : ¬e.Quits := by
  rw [Loads] at h
  rw [Quits, h]
  decide

theorem stamp?_eq (e : Stamped) : PlayTimeState.stamp? e.event = some e.event.timestamp := by
  have hnonempty : e.event.timestamp ≠ "" := by
    rw [e.timestamp_eq, Timestamp.universal]
    exact List.append_ne_nil_of_right_ne_nil _ (by decide)
  exact if_neg hnonempty

theorem ofJournal?_timestamp (e : Stamped) : Timestamp.ofJournal? e.event.timestamp = some e.moment := by
  rw [e.timestamp_eq]
  exact e.isUniversal.ofJournal?_universal

theorem seconds_lt (e : Stamped) : e.seconds < 4000000 * 86400 :=
  e.isUniversal.wallSeconds_lt

end Stamped

/-- The events come one after the other, or at the same time. -/
def Ordered (run : List Stamped) : Prop :=
  run.Pairwise fun earlier later => earlier.seconds ≤ later.seconds

/-! ### What the events tell -/

/-- The end of a session that began with `load`: the first shutdown before the next game is loaded, or else
the last event before that, which may be `load` itself. -/
def sessionEnd (load : Stamped) (later : List Stamped) : Stamped :=
  let own := later.takeWhile fun e => ¬e.Loads
  (own.find? fun e => e.Quits).getD (own.getLastD load)

/-- The seconds that the games loaded in a run were played. -/
def totalPlayed : List Stamped → Nat
  | [] => 0
  | e :: later => (if e.Loads then (sessionEnd e later).seconds - e.seconds else 0) + totalPlayed later

/-- Some game is loaded, and no shutdown follows. -/
def Unfinished (run : List Stamped) : Prop :=
  ∃ before load later, run = before ++ load :: later ∧ load.Loads ∧ ∀ e ∈ later, ¬e.Quits

section Sessions

variable {e last : Stamped} {run later more : List Stamped}

theorem sessionEnd_nil (last : Stamped) : sessionEnd last [] = last := rfl

theorem sessionEnd_of_loads (h : e.Loads) (last : Stamped) (later : List Stamped) :
    sessionEnd last (e :: later) = last := by
  simp [sessionEnd, h]

theorem sessionEnd_of_quits (h : e.Quits) (last : Stamped) (later : List Stamped) :
    sessionEnd last (e :: later) = e := by
  have hload : ¬e.Loads := fun hl => Stamped.not_quits_of_loads hl h
  simp [sessionEnd, h, hload]

theorem sessionEnd_of_neither (hload : ¬e.Loads) (hquit : ¬e.Quits) (last : Stamped) (later : List Stamped) :
    sessionEnd last (e :: later) = sessionEnd e later := by
  simp [sessionEnd, hload, hquit, List.getLast?_cons]

/-- The session ends at one of its events. -/
theorem sessionEnd_mem (last : Stamped) (later : List Stamped) : sessionEnd last later ∈ last :: later := by
  induction later generalizing last with
  | nil => exact List.mem_singleton_self last
  | cons e later ih =>
    by_cases hload : e.Loads
    · rw [sessionEnd_of_loads hload]
      exact List.mem_cons_self
    · by_cases hquit : e.Quits
      · rw [sessionEnd_of_quits hquit]
        exact List.mem_cons_of_mem _ List.mem_cons_self
      · rw [sessionEnd_of_neither hload hquit]
        exact List.mem_cons_of_mem _ (ih e)

theorem seconds_le_sessionEnd (h : Ordered (last :: later)) :
    last.seconds ≤ (sessionEnd last later).seconds := by
  obtain heq | hmem := List.mem_cons.1 (sessionEnd_mem last later)
  · rw [heq]
  · exact List.rel_of_pairwise_cons h hmem

/-- A game that is loaded ends the session before it, and leaves its end as it is. -/
theorem sessionEnd_append_of_loads (h : e.Loads) (last : Stamped) (run later : List Stamped) :
    sessionEnd last (run ++ e :: later) = sessionEnd last run := by
  induction run generalizing last with
  | nil => exact sessionEnd_of_loads h last later
  | cons f run ih =>
    by_cases hload : f.Loads
    · rw [List.cons_append, sessionEnd_of_loads hload, sessionEnd_of_loads hload]
    · by_cases hquit : f.Quits
      · rw [List.cons_append, sessionEnd_of_quits hquit, sessionEnd_of_quits hquit]
      · rw [List.cons_append, sessionEnd_of_neither hload hquit, sessionEnd_of_neither hload hquit, ih]

/-- A session that a shutdown has ended is not affected by what follows. -/
theorem sessionEnd_append_of_quits (h : ∃ e ∈ run, e.Quits) (last : Stamped) (later : List Stamped) :
    sessionEnd last (run ++ later) = sessionEnd last run := by
  induction run generalizing last with
  | nil => simp at h
  | cons e run ih =>
    by_cases hload : e.Loads
    · rw [List.cons_append, sessionEnd_of_loads hload, sessionEnd_of_loads hload]
    · by_cases hquit : e.Quits
      · rw [List.cons_append, sessionEnd_of_quits hquit, sessionEnd_of_quits hquit]
      · have hrest : ∃ f ∈ run, f.Quits := by simpa [hquit] using h
        rw [List.cons_append, sessionEnd_of_neither hload hquit, sessionEnd_of_neither hload hquit, ih hrest]

/-- A session goes on until a game is loaded or a shutdown comes. -/
theorem sessionEnd_append_of_neither (h : ∀ e ∈ run, ¬e.Loads ∧ ¬e.Quits) (last : Stamped)
    (later : List Stamped) : sessionEnd last (run ++ later) = sessionEnd (run.getLastD last) later := by
  induction run generalizing last with
  | nil => rfl
  | cons e run ih =>
    obtain ⟨hload, hquit⟩ := h e List.mem_cons_self
    rw [List.cons_append, sessionEnd_of_neither hload hquit, List.getLastD_cons]
    exact ih (fun f hf => h f (List.mem_cons_of_mem e hf)) e

/-- A session does not get shorter when more events follow. -/
theorem sessionEnd_append_le (h : Ordered (last :: (run ++ more))) :
    (sessionEnd last run).seconds ≤ (sessionEnd last (run ++ more)).seconds := by
  induction run generalizing last with
  | nil => exact seconds_le_sessionEnd h
  | cons e run ih =>
    rw [List.cons_append] at h ⊢
    by_cases hload : e.Loads
    · rw [sessionEnd_of_loads hload, sessionEnd_of_loads hload]
    · by_cases hquit : e.Quits
      · rw [sessionEnd_of_quits hquit, sessionEnd_of_quits hquit]
      · rw [sessionEnd_of_neither hload hquit, sessionEnd_of_neither hload hquit]
        exact ih h.of_cons

theorem totalPlayed_of_loads (h : e.Loads) (later : List Stamped) :
    totalPlayed (e :: later) = (sessionEnd e later).seconds - e.seconds + totalPlayed later := by
  rw [totalPlayed, if_pos h]

theorem totalPlayed_of_not_loads (h : ¬e.Loads) (later : List Stamped) :
    totalPlayed (e :: later) = totalPlayed later := by
  rw [totalPlayed, if_neg h, Nat.zero_add]

/-- The play time never decreases. -/
theorem totalPlayed_append_le (h : Ordered (run ++ more)) : totalPlayed run ≤ totalPlayed (run ++ more) := by
  induction run with
  | nil => exact Nat.zero_le _
  | cons e run ih =>
    have hlength := sessionEnd_append_le h
    have hrest := ih h.of_cons
    rw [List.cons_append]
    by_cases hload : e.Loads
    · rw [totalPlayed_of_loads hload, totalPlayed_of_loads hload]
      omega
    · rw [totalPlayed_of_not_loads hload, totalPlayed_of_not_loads hload]
      exact hrest

theorem unfinished_append_singleton : Unfinished (run ++ [e]) ↔ e.Loads ∨ (¬e.Quits ∧ Unfinished run) := by
  constructor
  · rintro ⟨before, load, later, hrun, hload, hlater⟩
    obtain rfl | ⟨later, f, rfl⟩ := List.eq_nil_or_concat later
    · obtain ⟨-, he⟩ := List.append_inj' hrun rfl
      cases he
      exact .inl hload
    · rw [List.concat_eq_append] at hrun hlater
      rw [← List.cons_append, ← List.append_assoc] at hrun
      obtain ⟨rfl, he⟩ := List.append_inj' hrun rfl
      cases he
      exact .inr ⟨hlater e (by simp), before, load, later, rfl, hload, fun g hg => hlater g (by simp [hg])⟩
  · rintro (hload | ⟨hquit, before, load, later, rfl, hload, hlater⟩)
    · exact ⟨run, e, [], rfl, hload, by simp⟩
    · refine ⟨before, load, later ++ [e], by simp, hload, fun f hf => ?_⟩
      obtain hf | hf := List.mem_append.1 hf
      · exact hlater f hf
      · cases List.mem_singleton.1 hf
        exact hquit

/-- What is played after a session fits into the time from its end to the last event. -/
theorem sessionEnd_add_totalPlayed_le (h : Ordered (last :: run)) :
    (sessionEnd last run).seconds + totalPlayed run ≤ (run.getLastD last).seconds := by
  induction run generalizing last with
  | nil => simp [sessionEnd_nil, totalPlayed]
  | cons e run ih =>
    have hlast : last.seconds ≤ e.seconds := List.rel_of_pairwise_cons h List.mem_cons_self
    have hlength := seconds_le_sessionEnd h.of_cons
    have hrest := ih h.of_cons
    rw [List.getLastD_cons]
    by_cases hload : e.Loads
    · rw [sessionEnd_of_loads hload, totalPlayed_of_loads hload]
      omega
    · rw [totalPlayed_of_not_loads hload]
      by_cases hquit : e.Quits
      · rw [sessionEnd_of_quits hquit]
        omega
      · rw [sessionEnd_of_neither hload hquit]
        exact hrest

theorem totalPlayed_append_of_forall_not_loads (h : ∀ e ∈ run, ¬e.Loads) (later : List Stamped) :
    totalPlayed (run ++ later) = totalPlayed later := by
  induction run with
  | nil => rfl
  | cons e run ih =>
    rw [List.cons_append, totalPlayed_of_not_loads (h e List.mem_cons_self)]
    exact ih fun f hf => h f (List.mem_cons_of_mem e hf)

/-- The play time fits into the time from the first game that is loaded to the last event. -/
theorem totalPlayed_le_of_find? {load : Stamped} (h : Ordered run)
    (hload : run.find? (fun e => e.Loads) = some load) (hlast : run.getLast? = some last) :
    load.seconds + totalPlayed run ≤ last.seconds := by
  obtain ⟨hloads, before, later, rfl, hbefore⟩ := List.find?_eq_some_iff_append.1 hload
  have hloads : load.Loads := by simpa using hloads
  have hnone : ∀ e ∈ before, ¬e.Loads := fun e he => by simpa using hbefore e he
  have hordered : Ordered (load :: later) := (List.pairwise_append.1 h).2.1
  have hend : later.getLastD load = last := by
    simpa [List.getLast?_append, List.getLast?_cons] using hlast
  have hlength := seconds_le_sessionEnd hordered
  have hrest := sessionEnd_add_totalPlayed_le hordered
  rw [hend] at hrest
  rw [totalPlayed_append_of_forall_not_loads hnone, totalPlayed_of_loads hloads]
  omega

end Sessions

end Chronicle

end JournalHerald

import JournalHerald.Dispatch
import JournalHerald.Proofs.Runs

/-!
# Runs of the dispatch queue

A run is any order of actions each of which is possible when it happens, from the queue before its
first use. What an action of a worker can do is told once here, so that what is kept along a run
is shown action by action without a look into `act?`.

* `Run trace d` says that the actions in `trace` lead to the state `d`;
* `act?_take`, `act?_call`, `act?_finish`, `act?_fail`, `act?_recover` and `act?_proceed` tell all
  that these actions can do;
* `added` are the notifications that a trace adds, in order.
-/

namespace JournalHerald.Dispatch

/-- The actions, the earliest first, lead from the queue before its first use to a state. -/
inductive Run : List Action → Dispatch → Prop where
  | start : Run [] {}
  | step {trace : List Action} {d d' : Dispatch} {action : Action} :
      Run trace d → d.act? action = some d' → Run (trace ++ [action]) d'

theorem run_iff_runs {trace : List Action} {d : Dispatch} :
    Run trace d ↔ Runs act? {} trace d := by
  constructor
  · intro run
    induction run with
    | start => exact .start
    | step _ hact ih => exact .step ih hact
  · intro run
    induction run with
    | start => exact .start
    | step _ hact ih => exact .step ih hact

theorem Run.of_append_singleton {trace : List Action} {action : Action} {d : Dispatch}
    (run : Run (trace ++ [action]) d) : ∃ d₀, Run trace d₀ ∧ d₀.act? action = some d := by
  obtain ⟨d₀, run₀, hact⟩ := (run_iff_runs.1 run).of_append_singleton
  exact ⟨d₀, run_iff_runs.2 run₀, hact⟩

/-- Every part of a trace from its beginning on is the trace of a run. -/
theorem Run.of_append {trace later : List Action} {d : Dispatch} (run : Run (trace ++ later) d) :
    ∃ d₀, Run trace d₀ := by
  obtain ⟨d₀, run₀⟩ := (run_iff_runs.1 run).of_append
  exact ⟨d₀, run_iff_runs.2 run₀⟩

/-- Every action in the trace of a run was possible when it happened. -/
theorem Run.act?_of_append_cons {trace later : List Action} {action : Action} {d : Dispatch}
    (run : Run (trace ++ action :: later) d) :
    ∃ d₀ d₁, Run trace d₀ ∧ d₀.act? action = some d₁ := by
  rw [List.append_cons] at run
  obtain ⟨d₁, run⟩ := run.of_append
  obtain ⟨d₀, run, hact⟩ := run.of_append_singleton
  exact ⟨d₀, d₁, run, hact⟩

/-- A run can be checked by carrying it out. -/
theorem run_iff_foldlM {trace : List Action} {d : Dispatch} :
    Run trace d ↔ trace.foldlM act? {} = some d :=
  run_iff_runs.trans runs_iff_foldlM

/-- The notifications that a trace adds, in order. -/
def added (trace : List Action) : List Notification :=
  trace.filterMap fun
    | .add n => some n
    | _ => none

@[simp] theorem added_append (trace later : List Action) :
    added (trace ++ later) = added trace ++ added later :=
  List.filterMap_append

@[simp] theorem added_add (n : Notification) : added [.add n] = [n] := rfl

/-! ### What an action of a worker can do -/

section Actions

variable {d d' : Dispatch} {w : Nat}

theorem act?_take (h : d.act? (.take w) = some d') :
    ∃ stopped, d.workers[w]? = some ⟨.idle, stopped⟩ ∧
      ((stopped = true ∧ d' = d.enter w ⟨.idle, stopped⟩ .ended) ∨
       (stopped = false ∧ ∃ n rest, d.pending = n :: rest ∧
          d' = { d with pending := rest, acknowledged := false, awaiting := true }.enter w
            ⟨.idle, stopped⟩ (.taken n))) := by
  simp only [act?] at h
  split at h
  · next stopped hw =>
    refine ⟨stopped, hw, ?_⟩
    unfold take? at h
    by_cases hs : stopped = true
    · rw [if_pos hs] at h
      exact .inl ⟨hs, (Option.some.inj h).symm⟩
    · rw [if_neg hs] at h
      split at h
      · cases h
      · next n rest hpending =>
        exact .inr ⟨Bool.eq_false_iff.2 hs, n, rest, hpending, (Option.some.inj h).symm⟩
  · cases h

theorem act?_call (h : d.act? (.call w) = some d') :
    ∃ n stopped, d.workers[w]? = some ⟨.taken n, stopped⟩ ∧
      d' = { d with shown := d.shown ++ [n] }.enter w ⟨.taken n, stopped⟩ (.presenting n) := by
  simp only [act?] at h
  split at h
  · next n stopped hw => exact ⟨n, stopped, hw, (Option.some.inj h).symm⟩
  · cases h

theorem act?_finish (h : d.act? (.finish w) = some d') :
    ∃ n stopped, d.workers[w]? = some ⟨.presenting n, stopped⟩ ∧
      d' = d.enter w ⟨.presenting n, stopped⟩ (.presented n) := by
  simp only [act?] at h
  split at h
  · next n stopped hw => exact ⟨n, stopped, hw, (Option.some.inj h).symm⟩
  · cases h

theorem act?_fail (h : d.act? (.fail w) = some d') :
    ∃ n stopped, d.workers[w]? = some ⟨.presenting n, stopped⟩ ∧
      d' = d.enter w ⟨.presenting n, stopped⟩ (.failed n) := by
  simp only [act?] at h
  split at h
  · next n stopped hw => exact ⟨n, stopped, hw, (Option.some.inj h).symm⟩
  · cases h

theorem act?_recover (h : d.act? (.recover w) = some d') :
    ∃ n stopped, d.workers[w]? = some ⟨.failed n, stopped⟩ ∧
      ((stopped = true ∧ d' = d.enter w ⟨.failed n, stopped⟩ .ended) ∨
       (stopped = false ∧
          d' = { d with awaiting := false }.enter w ⟨.failed n, stopped⟩ .idle)) := by
  simp only [act?] at h
  split at h
  · next n stopped hw =>
    refine ⟨n, stopped, hw, ?_⟩
    unfold recover at h
    by_cases hs : stopped = true
    · rw [if_pos hs] at h
      exact .inl ⟨hs, (Option.some.inj h).symm⟩
    · rw [if_neg hs] at h
      exact .inr ⟨Bool.eq_false_iff.2 hs, (Option.some.inj h).symm⟩
  · cases h

theorem act?_proceed (h : d.act? (.proceed w) = some d') :
    ∃ n stopped, d.workers[w]? = some ⟨.presented n, stopped⟩ ∧
      ((stopped = true ∧ d' = d.enter w ⟨.presented n, stopped⟩ .ended) ∨
       (stopped = false ∧ d.acknowledged = true ∧
          d' = { d with awaiting := false }.enter w ⟨.presented n, stopped⟩ .idle)) := by
  simp only [act?] at h
  split at h
  · next n stopped hw =>
    refine ⟨n, stopped, hw, ?_⟩
    unfold proceed? at h
    by_cases hs : stopped = true
    · rw [if_pos hs] at h
      exact .inl ⟨hs, (Option.some.inj h).symm⟩
    · rw [if_neg hs] at h
      by_cases hack : d.acknowledged = true
      · rw [if_pos hack] at h
        exact .inr ⟨Bool.eq_false_iff.2 hs, hack, (Option.some.inj h).symm⟩
      · rw [if_neg hack] at h
        cases h
  · cases h

end Actions

end JournalHerald.Dispatch

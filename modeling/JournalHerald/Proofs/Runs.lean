import Mathlib.Data.List.Induction

/-!
# Runs

A run is any order of actions each of which is possible when it happens. The effect of an action is
a state, which is missing where the action is not possible.

* `Runs act? s₀ trace s` says that the actions in `trace` lead from the state `s₀` to the state `s`;
* `runs_iff_foldlM` carries a run out.
-/

namespace JournalHerald

/-- The actions, the earliest first, lead from one state to another. -/
inductive Runs {σ α : Type} (act? : σ → α → Option σ) (s₀ : σ) : List α → σ → Prop where
  | start : Runs act? s₀ [] s₀
  | step {trace : List α} {s s' : σ} {a : α} :
      Runs act? s₀ trace s → act? s a = some s' → Runs act? s₀ (trace ++ [a]) s'

variable {σ α : Type} {act? act?' : σ → α → Option σ} {s₀ s : σ} {trace later : List α} {a : α}

theorem Runs.of_append_singleton (run : Runs act? s₀ (trace ++ [a]) s) :
    ∃ s₁, Runs act? s₀ trace s₁ ∧ act? s₁ a = some s := by
  generalize htrace : trace ++ [a] = all at run
  cases run with
  | start => simp at htrace
  | @step trace' s₁ _ a' run hact =>
    obtain ⟨rfl, he⟩ := List.append_inj' htrace rfl
    cases he
    exact ⟨s₁, run, hact⟩

/-- Every part of a trace from its beginning on is the trace of a run. -/
theorem Runs.of_append (run : Runs act? s₀ (trace ++ later) s) : ∃ s₁, Runs act? s₀ trace s₁ := by
  induction later using List.reverseRecOn generalizing s with
  | nil => exact ⟨s, by simpa using run⟩
  | append_singleton later a ih =>
    rw [← List.append_assoc] at run
    obtain ⟨s₁, run, -⟩ := run.of_append_singleton
    exact ih run

/-- A run can be checked by carrying it out. -/
theorem runs_iff_foldlM : Runs act? s₀ trace s ↔ trace.foldlM act? s₀ = some s := by
  constructor
  · intro run
    induction run with
    | start => rfl
    | step _ hact ih => rw [List.foldlM_append, ih]; simpa using hact
  · intro h
    induction trace using List.reverseRecOn generalizing s with
    | nil => cases h; exact .start
    | append_singleton trace a ih =>
      rw [List.foldlM_append] at h
      obtain ⟨s₁, hrun, hact⟩ := Option.bind_eq_some_iff.1 h
      exact .step (ih hrun) (by simpa using hact)

/-- What is possible at more states and has the same effect leads to the same states. -/
theorem Runs.imp (run : Runs act? s₀ trace s)
    (h : ∀ s a s', act? s a = some s' → act?' s a = some s') : Runs act?' s₀ trace s := by
  induction run with
  | start => exact .start
  | step _ hact ih => exact .step ih (h _ _ _ hact)

end JournalHerald

import JournalHerald.Proofs.Dispatch.Order
import Mathlib.Data.List.Perm.Subperm

/-!
# Generations of workers

A queue may be stopped and started again while a worker of an earlier start is still held up by its
presenter, so that several workers live side by side. They share the queue and its flags, but each
has a stop signal of its own. What keeps them apart is told by three invariants.

* The worker that was started last may be at work. All the others are `Worker.Retired`, and so is
  the last one when the queue has let go of it (`StoodDown`).
* A stopped worker has no part in what is pending and in the flags, and it keeps no more in hand
  than it had when it was stopped (`Run.stopped_worker`).
* Notifications only move on, from the queue to a worker and from there to the presenter
  (`Run.count_stock_le`), so what a stop drops does not come up again.

What an action of a worker does is summed up in `Turn`.
-/

namespace JournalHerald.Dispatch

/-! ### Starts and stops that do not overlap -/

/-- A worker that takes no more notifications and does not call the presenter again: its stop signal
is set and it has nothing in hand. -/
def Worker.Retired (worker : Worker) : Prop :=
  worker.stopped = true ∧ inHand worker.phase = []

instance (worker : Worker) : Decidable worker.Retired :=
  inferInstanceAs (Decidable (_ ∧ _))

/-- What may happen when starts and stops do not overlap. A start stops the queue before it launches
a worker, so that the queue holds on to none. A stop lets go of a worker only after it has set the
signal: when the worker has ended, or when the stop does not wait any longer because the worker is
inside its presenter, which may be what stops the queue. Everything else may happen at any time. -/
def Permitted (d : Dispatch) : Action → Prop
  | .launch => d.started = false
  | .forget => d.started = true → ∀ worker ∈ d.workers.getLast?, worker.Retired
  | _ => True

instance (d : Dispatch) : (action : Action) → Decidable (d.Permitted action)
  | .launch => inferInstanceAs (Decidable (d.started = false))
  | .forget => inferInstanceAs (Decidable (d.started = true → ∀ _ ∈ d.workers.getLast?, _))
  | .add _ | .acknowledge | .signal | .take _ | .call _ | .finish _ | .fail _ | .recover _
  | .proceed _ => isTrue trivial

/-- The state after an action, if the action is permitted and possible. -/
def orderlyAct? (d : Dispatch) (action : Action) : Option Dispatch :=
  if d.Permitted action then d.act? action else none

/-- A run in which starts and stops do not overlap. -/
abbrev OrderlyRun : List Action → Dispatch → Prop :=
  Runs orderlyAct? {}

theorem orderlyAct?_eq_some_iff {d d' : Dispatch} {action : Action} :
    d.orderlyAct? action = some d' ↔ d.Permitted action ∧ d.act? action = some d' := by
  rw [orderlyAct?, Option.ite_none_right_eq_some]

theorem OrderlyRun.run {trace : List Action} {d : Dispatch} (h : OrderlyRun trace d) :
    Run trace d :=
  run_iff_runs.2 (h.imp fun _ _ _ hact => (orderlyAct?_eq_some_iff.1 hact).2)

theorem Run.eq_of_run {trace : List Action} {d d' : Dispatch} (run : Run trace d)
    (run' : Run trace d') : d = d' :=
  Option.some.inj ((run_iff_foldlM.1 run).symm.trans (run_iff_foldlM.1 run'))

/-! ### What an action of a worker does -/

/-- The worker whose action it is. -/
def Action.worker? : Action → Option Nat
  | .take w | .call w | .finish w | .fail w | .recover w | .proceed w => some w
  | .add _ | .acknowledge | .launch | .signal | .forget => none

/-- What an action of a worker does, in which the worker enters a phase. -/
structure Turn (w : Nat) (worker : Worker) (phase : Phase) (action : Action) (d d' : Dispatch) :
    Prop where
  acts : d.workers[w]? = some worker
  workers : d'.workers = d.workers.set w { worker with phase }
  started : d'.started = d.started
  /-- Notifications only move on, from the queue to the worker and from there to the presenter. -/
  moved : d'.shown ++ inHand phase ++ d'.pending = d.shown ++ inHand worker.phase ++ d.pending
  called : (action = .call w ∧ ∃ n, worker.phase = .taken n ∧ d'.shown = d.shown ++ [n]) ∨
    (action ≠ .call w ∧ d'.shown = d.shown)
  /-- A stopped worker leaves alone what may belong to the next one. -/
  harmless : worker.stopped = true →
    d'.pending = d.pending ∧ d'.awaiting = d.awaiting ∧ d'.acknowledged = d.acknowledged

/-- A worker that goes from one phase to another one with nothing in hand. -/
theorem Turn.of_enter {w : Nat} {worker : Worker} {phase : Phase} {action : Action}
    {d : Dispatch} (hworker : d.workers[w]? = some worker) (hcall : action ≠ .call w)
    (hhand : inHand worker.phase = []) (hphase : inHand phase = []) :
    Turn w worker phase action d (d.enter w worker phase) where
  acts := hworker
  workers := rfl
  started := rfl
  moved := by rw [hhand, hphase]; rfl
  called := .inr ⟨hcall, rfl⟩
  harmless _ := ⟨rfl, rfl, rfl⟩

/-- A worker that is done with a notification and goes on. -/
theorem Turn.of_done {w : Nat} {worker : Worker} {action : Action} {d : Dispatch}
    (hworker : d.workers[w]? = some worker) (hcall : action ≠ .call w)
    (hhand : inHand worker.phase = []) (hrunning : worker.stopped = false) :
    Turn w worker .idle action d ({ d with awaiting := false }.enter w worker .idle) where
  acts := hworker
  workers := rfl
  started := rfl
  moved := by rw [hhand]; rfl
  called := .inr ⟨hcall, rfl⟩
  harmless hstopped := by rw [hrunning] at hstopped; cases hstopped

theorem exists_turn {d d' : Dispatch} {action : Action} {w : Nat}
    (hact : d.act? action = some d') (hw : action.worker? = some w) :
    ∃ worker phase, Turn w worker phase action d d' := by
  cases action with
  | take v =>
    cases hw
    obtain ⟨stopped, hv, ⟨-, rfl⟩ | ⟨rfl, n, rest, hpending, rfl⟩⟩ := act?_take hact
    · exact ⟨_, _, .of_enter hv (by simp) rfl rfl⟩
    · refine ⟨⟨.idle, false⟩, .taken n, hv, rfl, rfl, ?_, .inr ⟨by simp, rfl⟩, by simp⟩
      simp [enter, inHand, hpending]
  | call v =>
    cases hw
    obtain ⟨n, stopped, hv, rfl⟩ := act?_call hact
    exact ⟨⟨.taken n, stopped⟩, .presenting n, hv, rfl, rfl, by simp [enter, inHand],
      .inl ⟨rfl, n, rfl, rfl⟩, fun _ => ⟨rfl, rfl, rfl⟩⟩
  | finish v =>
    cases hw
    obtain ⟨n, stopped, hv, rfl⟩ := act?_finish hact
    exact ⟨_, _, .of_enter hv (by simp) rfl rfl⟩
  | fail v =>
    cases hw
    obtain ⟨n, stopped, hv, rfl⟩ := act?_fail hact
    exact ⟨_, _, .of_enter hv (by simp) rfl rfl⟩
  | recover v =>
    cases hw
    obtain ⟨n, stopped, hv, ⟨-, rfl⟩ | ⟨hrunning, rfl⟩⟩ := act?_recover hact
    · exact ⟨_, _, .of_enter hv (by simp) rfl rfl⟩
    · exact ⟨_, _, .of_done hv (by simp) rfl hrunning⟩
  | proceed v =>
    cases hw
    obtain ⟨n, stopped, hv, ⟨-, rfl⟩ | ⟨hrunning, -, rfl⟩⟩ := act?_proceed hact
    · exact ⟨_, _, .of_enter hv (by simp) rfl rfl⟩
    · exact ⟨_, _, .of_done hv (by simp) rfl hrunning⟩
  | _ => cases hw

section Turn

variable {w v : Nat} {worker other : Worker} {phase : Phase} {action : Action} {d d' : Dispatch}

theorem Turn.getElem?_workers (turn : Turn w worker phase action d d') :
    d'.workers[w]? = some { worker with phase } := by
  rw [turn.workers, List.getElem?_set_self]
  exact (List.getElem?_eq_some_iff.1 turn.acts).1

theorem Turn.getElem?_workers_of_ne (turn : Turn w worker phase action d d') (hne : v ≠ w) :
    d'.workers[v]? = d.workers[v]? := by
  rw [turn.workers, List.getElem?_set_ne hne.symm]

/-- A stopped worker takes nothing, so it has in hand what it had, until it calls the presenter. -/
theorem Turn.inHand_of_stopped (turn : Turn w worker phase action d d')
    (hstopped : worker.stopped = true) :
    (action = .call w ∧ inHand phase = [] ∧
      ∃ n, worker.phase = .taken n ∧ d'.shown = d.shown ++ [n]) ∨
    (action ≠ .call w ∧ inHand phase = inHand worker.phase) := by
  have hmoved := turn.moved
  rw [(turn.harmless hstopped).1, List.append_left_inj] at hmoved
  rcases turn.called with ⟨hcall, n, hphase, hshown⟩ | ⟨hcall, hshown⟩
  · refine .inl ⟨hcall, ?_, n, hphase, hshown⟩
    simpa [hshown, hphase, inHand] using hmoved
  · exact .inr ⟨hcall, by simpa [hshown] using hmoved⟩

theorem Turn.retired (turn : Turn w worker phase action d d') (hretired : worker.Retired) :
    Worker.Retired { worker with phase } := by
  obtain ⟨hstopped, hhand⟩ := hretired
  rcases turn.inHand_of_stopped hstopped with ⟨-, hphase, -⟩ | ⟨-, hphase⟩
  · exact ⟨hstopped, hphase⟩
  · exact ⟨hstopped, hphase.trans hhand⟩

end Turn

/-! ### The stop signal of the last worker -/

@[simp] theorem length_signalLast (workers : List Worker) :
    (signalLast workers).length = workers.length := by
  fun_induction signalLast workers with
  | case1 => rfl
  | case2 => rfl
  | case3 worker rest _ ih => simp [ih]

theorem getElem?_signalLast (workers : List Worker) (w : Nat) :
    (signalLast workers)[w]? = workers[w]?.map fun worker =>
      if w + 1 = workers.length then { worker with stopped := true } else worker := by
  fun_induction signalLast workers generalizing w with
  | case1 => rfl
  | case2 worker => cases w <;> simp
  | case3 worker rest hrest ih =>
    have hpos : rest ≠ [] := by rintro rfl; exact hrest rfl
    cases w with
    | zero => simp [hpos]
    | succ w => simp [ih]

theorem inHand_signalLast (workers : List Worker) :
    (signalLast workers).flatMap (fun worker => inHand worker.phase) =
      workers.flatMap fun worker => inHand worker.phase := by
  fun_induction signalLast workers with
  | case1 => rfl
  | case2 => rfl
  | case3 worker rest _ ih => simp [ih]

/-! ### Retired workers -/

/-- All workers are retired but the one that the queue holds on to. -/
def StoodDown (d : Dispatch) : Prop :=
  ∀ w worker, d.workers[w]? = some worker → w + 1 < d.workers.length ∨ d.started = false →
    worker.Retired

theorem StoodDown.turn {w : Nat} {worker : Worker} {phase : Phase} {action : Action}
    {d d' : Dispatch} (h : StoodDown d) (turn : Turn w worker phase action d d') :
    StoodDown d' := by
  intro v other hv hpast
  rw [turn.workers, List.length_set, turn.started] at hpast
  by_cases hvw : v = w
  · subst hvw
    rw [turn.getElem?_workers] at hv
    cases hv
    exact turn.retired (h v worker turn.acts hpast)
  · rw [turn.getElem?_workers_of_ne hvw] at hv
    exact h v other hv hpast

theorem StoodDown.step {d d' : Dispatch} {action : Action} (h : StoodDown d)
    (hpermitted : d.Permitted action) (hact : d.act? action = some d') : StoodDown d' := by
  rcases hw : action.worker? with _ | w
  · cases action with
    | add n =>
      cases hact
      exact h
    | acknowledge =>
      cases hact
      intro w worker hw hpast
      split at hw <;> split at hpast <;> exact h w worker hw hpast
    | launch =>
      cases hact
      intro w worker hw hpast
      simp only [List.length_append, List.length_singleton, Bool.true_eq_false, or_false] at hpast
      rw [List.getElem?_append_left (by omega)] at hw
      exact h w worker hw (.inr hpermitted)
    | signal =>
      simp only [act?] at hact
      split at hact
      · next hstarted =>
        cases hact
        intro w worker hw hpast
        rw [getElem?_signalLast] at hw
        obtain ⟨worker₀, hw₀, rfl⟩ := Option.map_eq_some_iff.1 hw
        simp only [length_signalLast, hstarted, Bool.true_eq_false, or_false] at hpast
        rw [if_neg (by omega)]
        exact h w worker₀ hw₀ (.inl hpast)
      · cases hact
    | forget =>
      cases hact
      intro w worker hw _
      by_cases hpast : w + 1 < d.workers.length ∨ d.started = false
      · exact h w worker hw hpast
      · have hlt : w < d.workers.length := (List.getElem?_eq_some_iff.1 hw).1
        refine hpermitted (by simpa using fun hs => hpast (.inr hs)) worker ?_
        rw [List.getLast?_eq_getElem?, Option.mem_def]
        rwa [show d.workers.length - 1 = w by omega]
    | _ => cases hw
  · obtain ⟨worker, phase, turn⟩ := exists_turn hact hw
    exact h.turn turn

/-- **All workers of an orderly run are retired but the one that the queue holds on to.** -/
theorem OrderlyRun.stoodDown {trace : List Action} {d : Dispatch} (run : OrderlyRun trace d) :
    StoodDown d := by
  induction run with
  | start => intro w worker hw; cases hw
  | step _ hact ih =>
    obtain ⟨hpermitted, hact⟩ := orderlyAct?_eq_some_iff.1 hact
    exact ih.step hpermitted hact

theorem StoodDown.eq_of_unstopped {d : Dispatch} (h : StoodDown d) {v w : Nat}
    {worker worker' : Worker} (hv : d.workers[v]? = some worker)
    (hw : d.workers[w]? = some worker') (hv' : worker.stopped = false)
    (hw' : worker'.stopped = false) : v = w := by
  have hlast : ∀ u (worker : Worker), d.workers[u]? = some worker → worker.stopped = false →
      u + 1 = d.workers.length := by
    intro u worker hu hrunning
    have hlt := (List.getElem?_eq_some_iff.1 hu).1
    by_contra hne
    have hretired := h u worker hu (.inl (by omega))
    rw [hretired.1] at hrunning
    cases hrunning
  have := hlast v worker hv hv'
  have := hlast w worker' hw hw'
  omega

/-! ### Stopped workers -/

theorem eq_taken_of_inHand {phase : Phase} {n : Notification} (h : inHand phase = [n]) :
    phase = .taken n := by
  cases phase with
  | taken m => cases h; rfl
  | _ => cases h

theorem stopped_step {d d' : Dispatch} {action : Action} {w : Nat} {phase : Phase}
    (hw : d.workers[w]? = some ⟨phase, true⟩) (hact : d.act? action = some d') :
    ∃ phase', d'.workers[w]? = some ⟨phase', true⟩ ∧
      ((action = .call w ∧ inHand phase' = [] ∧ ∃ n, phase = .taken n) ∨
       (action ≠ .call w ∧ inHand phase' = inHand phase)) := by
  rcases hv : action.worker? with _ | v
  · have hcall : action ≠ .call w := by rintro rfl; cases hv
    refine ⟨phase, ?_, .inr ⟨hcall, rfl⟩⟩
    cases action with
    | add n => cases hact; exact hw
    | acknowledge => cases hact; split <;> exact hw
    | launch =>
      cases hact
      exact (List.getElem?_append_left (List.getElem?_eq_some_iff.1 hw).1).trans hw
    | signal =>
      simp only [act?] at hact
      split at hact
      · cases hact
        rw [getElem?_signalLast, hw]
        simp
      · cases hact
    | forget => cases hact; exact hw
    | _ => cases hv
  · obtain ⟨worker, phase', turn⟩ := exists_turn hact hv
    by_cases hvw : w = v
    · subst hvw
      have hworker := turn.acts
      rw [hw] at hworker
      cases hworker
      refine ⟨phase', turn.getElem?_workers, ?_⟩
      rcases turn.inHand_of_stopped rfl with ⟨hcall, hhand, n, hphase, -⟩ | h
      · exact .inl ⟨hcall, hhand, n, hphase⟩
      · exact .inr h
    · refine ⟨phase, (turn.getElem?_workers_of_ne hvw).trans hw, .inr ⟨?_, rfl⟩⟩
      rintro rfl
      exact hvw (Option.some.inj hv)

/-- A stopped worker stays stopped. It has called the presenter at most once since, and only if it
had something in hand, which it has got rid of then. -/
theorem Run.stopped_worker {before after : List Action} {d₀ d : Dispatch} {w : Nat} {phase : Phase}
    (run₀ : Run before d₀) (hw : d₀.workers[w]? = some ⟨phase, true⟩)
    (run : Run (before ++ after) d) :
    ∃ phase', d.workers[w]? = some ⟨phase', true⟩ ∧
      ((after.count (.call w) = 0 ∧ inHand phase' = inHand phase) ∨
       (after.count (.call w) = 1 ∧ inHand phase' = [])) := by
  induction after using List.reverseRecOn generalizing d with
  | nil =>
    rw [List.append_nil] at run
    cases run₀.eq_of_run run
    exact ⟨phase, hw, .inl ⟨rfl, rfl⟩⟩
  | append_singleton after action ih =>
    rw [← List.append_assoc] at run
    obtain ⟨d₁, run₁, hact⟩ := run.of_append_singleton
    obtain ⟨phase₁, hw₁, hsince⟩ := ih run₁
    obtain ⟨phase', hw', hcase⟩ := stopped_step hw₁ hact
    refine ⟨phase', hw', ?_⟩
    rw [List.count_append]
    rcases hcase with ⟨rfl, hhand, n, rfl⟩ | ⟨hcall, hhand⟩
    · rcases hsince with ⟨hcount, -⟩ | ⟨-, hempty⟩
      · exact .inr ⟨by simp [hcount], hhand⟩
      · simp [inHand] at hempty
    · have hnone : List.count (.call w) [action] = 0 :=
        List.count_eq_zero.2 fun hmem => hcall (List.mem_singleton.1 hmem).symm
      rw [hnone, hhand]
      exact hsince

/-! ### What becomes of the notifications -/

/-- The notifications that have been shown, are in the hands of workers, or are pending. -/
def stock (d : Dispatch) : List Notification :=
  d.shown ++ (d.workers.flatMap fun worker => inHand worker.phase) ++ d.pending

theorem count_flatMap_set {α β : Type} [BEq β] (f : α → List β) {l : List α} {i : Nat} {a b : α}
    (h : l[i]? = some a) (x : β) :
    ((l.set i b).flatMap f).count x + (f a).count x =
      (l.flatMap f).count x + (f b).count x := by
  induction l generalizing i with
  | nil => cases h
  | cons first l ih =>
    cases i with
    | zero =>
      cases h
      simp only [List.set_cons_zero, List.flatMap_cons, List.count_append]
      omega
    | succ i =>
      have := ih (by simpa using h)
      simp only [List.set_cons_succ, List.flatMap_cons, List.count_append]
      omega

theorem Turn.count_stock {w : Nat} {worker : Worker} {phase : Phase} {action : Action}
    {d d' : Dispatch} (turn : Turn w worker phase action d d') (n : Notification) :
    d'.stock.count n = d.stock.count n := by
  have hmoved := congrArg (List.count n) turn.moved
  have hset := count_flatMap_set (fun worker => inHand worker.phase) (b := { worker with phase })
    turn.acts n
  simp only [stock, turn.workers, List.count_append] at hmoved hset ⊢
  omega

/-- What an action shows is shown in addition, and only what is added is new to the stock. -/
theorem stock_step {d d' : Dispatch} {action : Action} (hact : d.act? action = some d') :
    d.shown <+: d'.shown ∧
      ∀ n, d'.stock.count n ≤ d.stock.count n + (added [action]).count n := by
  rcases hw : action.worker? with _ | w
  · cases action with
    | add m =>
      cases hact
      refine ⟨List.prefix_rfl, fun n => ?_⟩
      simp [stock, added]
      omega
    | acknowledge =>
      cases hact
      split <;> exact ⟨List.prefix_rfl, fun n => Nat.le_add_right _ _⟩
    | launch =>
      cases hact
      exact ⟨List.prefix_rfl, fun n => by simp [stock, inHand]⟩
    | signal =>
      simp only [act?] at hact
      split at hact
      · cases hact
        refine ⟨List.prefix_rfl, fun n => ?_⟩
        simp only [stock, inHand_signalLast, List.count_append, List.count_nil]
        omega
      · cases hact
    | forget =>
      cases hact
      exact ⟨List.prefix_rfl, fun n => Nat.le_add_right _ _⟩
    | _ => cases hw
  · obtain ⟨worker, phase, turn⟩ := exists_turn hact hw
    refine ⟨?_, fun n => (turn.count_stock n).symm ▸ Nat.le_add_right _ _⟩
    rcases turn.called with ⟨-, n, -, hshown⟩ | ⟨-, hshown⟩
    · exact ⟨[n], hshown.symm⟩
    · exact hshown ▸ List.prefix_rfl

theorem Run.count_stock_le {before after : List Action} {d₀ d : Dispatch} (run₀ : Run before d₀)
    (run : Run (before ++ after) d) :
    d₀.shown <+: d.shown ∧ ∀ n, d.stock.count n ≤ d₀.stock.count n + (added after).count n := by
  induction after using List.reverseRecOn generalizing d with
  | nil =>
    rw [List.append_nil] at run
    cases run₀.eq_of_run run
    exact ⟨List.prefix_rfl, fun n => Nat.le_add_right _ _⟩
  | append_singleton after action ih =>
    rw [← List.append_assoc] at run
    obtain ⟨d₁, run₁, hact⟩ := run.of_append_singleton
    obtain ⟨hshown₁, hcount₁⟩ := ih run₁
    obtain ⟨hshown, hcount⟩ := stock_step hact
    refine ⟨hshown₁.trans hshown, fun n => ?_⟩
    have h₁ := hcount₁ n
    have h := hcount n
    rw [added_append, List.count_append]
    omega

/-! ### Main statement -/

/-- What becomes of a worker whose stop signal was set before `after`: it was in a phase then, and
has done no more than that phase allows. -/
structure WindsDown (before after : List Action) (w : Nat) (phase : Phase) : Prop where
  /-- It calls the presenter at most once more. -/
  once : after.count (.call w) ≤ 1
  /-- None of its actions takes a notification from the queue or touches the flags, and it calls the
  presenter only with what it had taken before. -/
  harmless : ∀ mid action rest d₁ d₂, after = mid ++ action :: rest → action.worker? = some w →
    Run (before ++ mid) d₁ → d₁.act? action = some d₂ →
      (d₂.pending = d₁.pending ∧ d₂.awaiting = d₁.awaiting ∧ d₂.acknowledged = d₁.acknowledged) ∧
      (action = .call w → ∃ n, phase = .taken n ∧ d₂.shown = d₁.shown ++ [n])

theorem Run.windsDown {before after : List Action} {d₀ d : Dispatch} {w : Nat} {phase : Phase}
    (run₀ : Run before d₀) (hw : d₀.workers[w]? = some ⟨phase, true⟩)
    (run : Run (before ++ after) d) : WindsDown before after w phase where
  once := by
    obtain ⟨-, -, ⟨hcount, -⟩ | ⟨hcount, -⟩⟩ := run₀.stopped_worker hw run <;> omega
  harmless := by
    rintro mid action rest d₁ d₂ rfl hworker run₁ hact
    obtain ⟨phase₁, hw₁, hsince⟩ := run₀.stopped_worker hw run₁
    obtain ⟨worker, phase₂, turn⟩ := exists_turn hact hworker
    have hacts := turn.acts
    rw [hw₁] at hacts
    cases hacts
    refine ⟨turn.harmless rfl, fun hcall => ?_⟩
    rcases turn.called with ⟨-, n, hphase₁, hshown⟩ | ⟨hne, -⟩
    · refine ⟨n, eq_taken_of_inHand ?_, hshown⟩
      -- what it has in hand now, it had in hand when it was stopped
      have hphase₁ : phase₁ = .taken n := hphase₁
      subst hphase₁
      rcases hsince with ⟨-, hhand⟩ | ⟨-, hempty⟩
      · exact hhand.symm
      · cases hempty
    · exact absurd hcall hne

/-- After a stop the queue holds on to no worker, until the next one is launched. -/
theorem Run.started_eq_false {before after : List Action} {d₀ d : Dispatch}
    (run₀ : Run before d₀) (hstopped : d₀.started = false) (run : Run (before ++ after) d)
    (hlaunch : .launch ∉ after) : d.started = false := by
  induction after using List.reverseRecOn generalizing d with
  | nil =>
    rw [List.append_nil] at run
    cases run₀.eq_of_run run
    exact hstopped
  | append_singleton after action ih =>
    rw [← List.append_assoc] at run
    obtain ⟨d₁, run₁, hact⟩ := run.of_append_singleton
    have hstopped₁ := ih run₁ fun h => hlaunch (List.mem_append_left _ h)
    rcases hw : action.worker? with _ | w
    · cases action with
      | add n => cases hact; exact hstopped₁
      | acknowledge => cases hact; split <;> exact hstopped₁
      | launch => exact absurd (List.mem_append_right _ (List.mem_singleton.2 rfl)) hlaunch
      | signal => simp [act?, hstopped₁] at hact
      | forget => cases hact; rfl
      | _ => cases hw
    · obtain ⟨worker, phase, turn⟩ := exists_turn hact hw
      exact turn.started.trans hstopped₁

theorem OrderlyRun.call_not_mem {before after : List Action} {d₀ d : Dispatch}
    (run₀ : Run before d₀) (hstopped : d₀.started = false) (run : OrderlyRun (before ++ after) d)
    (hlaunch : .launch ∉ after) (w : Nat) : .call w ∉ after := by
  intro hcall
  obtain ⟨mid, rest, rfl⟩ := List.append_of_mem hcall
  rw [← List.append_assoc, List.append_cons] at run
  obtain ⟨d₂, run₂⟩ := run.of_append
  obtain ⟨d₁, run₁, hact⟩ := run₂.of_append_singleton
  obtain ⟨n, stopped, hw, -⟩ := act?_call (orderlyAct?_eq_some_iff.1 hact).2
  have hstopped₁ := run₀.started_eq_false hstopped (OrderlyRun.run run₁) fun h =>
    hlaunch (List.mem_append_left _ h)
  have hretired := OrderlyRun.stoodDown run₁ w _ hw (.inr hstopped₁)
  simp [Worker.Retired, inHand] at hretired

/-- **A stopped queue shows nothing more, and a stopped worker meddles with nothing.** In a run in
which starts and stops do not overlap:

1. at any moment there is at most one worker whose stop signal is not set;
2. a worker whose stop signal is set takes nothing from the queue and leaves the flags alone, and it
   calls the presenter at most once more, with what it had in hand when it was stopped;
3. what is shown after a stop was in the hands of a worker when the queue was stopped, or has been
   added since; what was pending then is not shown;
4. when a stop has let go of the worker, or has found none, the presenter is not called until the
   next start. -/
theorem stopped_stays_stopped {trace : List Action} {d : Dispatch} (run : OrderlyRun trace d) :
    (∀ (v w : Nat) (worker worker' : Worker), d.workers[v]? = some worker →
      d.workers[w]? = some worker' → worker.stopped = false → worker'.stopped = false → v = w) ∧
    (∀ before after d₀ w phase, trace = before ++ after → Run before d₀ →
      d₀.workers[w]? = some ⟨phase, true⟩ → WindsDown before after w phase) ∧
    (∀ before after d₀, trace = before ++ .signal :: after → Run before d₀ →
      ∃ fresh, d.shown = d₀.shown ++ fresh ∧
        fresh.Subperm ((d₀.workers.flatMap fun worker => inHand worker.phase) ++ added after)) ∧
    (∀ before after d₀, trace = before ++ after → Run before d₀ → d₀.started = false →
      .launch ∉ after → ∀ w, .call w ∉ after) := by
  refine ⟨fun v w worker worker' hv hw => run.stoodDown.eq_of_unstopped hv hw, ?_, ?_, ?_⟩
  · rintro before after d₀ w phase rfl run₀ hw
    exact run₀.windsDown hw run.run
  · rintro before after d₀ rfl run₀
    have hrun := run.run
    rw [List.append_cons] at hrun
    obtain ⟨d₁, run₁⟩ := hrun.of_append
    obtain ⟨d₀', run₀', hact⟩ := run₁.of_append_singleton
    cases run₀.eq_of_run run₀'
    simp only [act?] at hact
    split at hact
    · cases hact
      obtain ⟨⟨fresh, hfresh⟩, hcount⟩ := run₁.count_stock_le hrun
      refine ⟨fresh, hfresh.symm, List.subperm_ext_iff.2 fun n _ => ?_⟩
      have hn := hcount n
      simp only [stock, ← hfresh, inHand_signalLast, List.count_append, List.count_nil] at hn
      rw [List.count_append]
      omega
    · cases hact
  · rintro before after d₀ rfl run₀ hstopped hlaunch
    exact OrderlyRun.call_not_mem run₀ hstopped run hlaunch

/-- The queue is stopped while its first notification is shown and the second one is pending, and
started again before the presenter returns. The second worker shows what has been added since. -/
theorem stopped_stays_stopped_restart :
    ∃ before after d,
      before = [.add ⟨"a", [], 0⟩, .add ⟨"b", [], 0⟩, .launch, .take 0, .call 0] ∧
      after = [.forget, .launch, .add ⟨"c", [], 0⟩, .take 1, .call 1, .finish 0, .proceed 0,
        .signal, .finish 1, .proceed 1, .forget] ∧
      OrderlyRun (before ++ .signal :: after) d ∧
      d.shown = [⟨"a", [], 0⟩, ⟨"c", [], 0⟩] ∧
      WindsDown (before ++ [.signal]) after 0 (.presenting ⟨"a", [], 0⟩) ∧
      ∃ fresh, d.shown = [⟨"a", [], 0⟩] ++ fresh ∧ fresh.Subperm [⟨"c", [], 0⟩] := by
  have run := runs_iff_foldlM.2 (rfl : List.foldlM orderlyAct? {}
    ([.add ⟨"a", [], 0⟩, .add ⟨"b", [], 0⟩, .launch, .take 0, .call 0] ++ .signal ::
      [.forget, .launch, .add ⟨"c", [], 0⟩, .take 1, .call 1, .finish 0, .proceed 0,
        .signal, .finish 1, .proceed 1, .forget]) = some _)
  obtain ⟨-, hwinds, hfresh, -⟩ := stopped_stays_stopped run
  refine ⟨_, _, _, rfl, rfl, run, rfl, ?_, ?_⟩
  · exact hwinds _ _ _ 0 (.presenting ⟨"a", [], 0⟩) rfl (run_iff_foldlM.2 rfl) rfl
  · exact hfresh _ _ _ rfl (run_iff_foldlM.2 rfl)

end JournalHerald.Dispatch

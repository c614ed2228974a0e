import JournalHerald.Proofs.Dispatch.Generations

/-!
# Which acknowledgements count

The flag for acknowledgements is lowered when a notification is taken, and acknowledgements raise it from then
on. So one from before a notification was taken never counts for it. But between the moment at which a worker
takes a notification and the moment at which it calls the presenter, the display knows nothing of the
notification yet, and an acknowledgement that comes then, which can only be one for an earlier notification,
counts all the same.

* `Phase.current?` is what a worker is at work on, and `current_step` tells how it got to be so;
* `TakenBefore` finds in a trace where a worker took a notification;
* `Run.attended` and `OrderlyRun.attended` are kept along runs: the flag is raised only by an acknowledgement
  since then, and in orderly runs by any of them;
* `leaves_wait_since_take` is about the workers that wait, and `not_acknowledged_since_call` about the moment
  before the call.
-/

namespace JournalHerald.Dispatch

/-! ### What a worker is at work on -/

/-- The notification that a worker has taken and that has not failed. -/
def Phase.current? : Phase → Option Notification
  | .taken n | .presenting n | .presented n => some n
  | .idle | .failed _ | .ended => none

/-- How often the presenter has been called with what a worker is at work on. -/
def Phase.calls : Phase → Nat
  | .presenting _ | .presented _ => 1
  | .idle | .taken _ | .failed _ | .ended => 0

section Step

variable {d d' : Dispatch} {action : Action} {w : Nat} {worker : Worker} {n : Notification}

/-- Nothing but an acknowledgement raises the flag. -/
theorem acknowledged_step (hact : d.act? action = some d') (hflag : d'.acknowledged = true) :
    d.acknowledged = true ∨ action = .acknowledge := by
  cases action with
  | add n => cases hact; exact .inl hflag
  | acknowledge => exact .inr rfl
  | launch => cases hact; exact .inl hflag
  | signal =>
    simp only [act?] at hact
    split at hact
    · cases hact; exact .inl hflag
    · cases hact
  | forget => cases hact; exact .inl hflag
  | take v =>
    obtain ⟨stopped, -, ⟨-, rfl⟩ | ⟨-, n, rest, -, rfl⟩⟩ := act?_take hact
    · exact .inl hflag
    · cases hflag
  | call v =>
    obtain ⟨n, stopped, -, rfl⟩ := act?_call hact
    exact .inl hflag
  | finish v =>
    obtain ⟨n, stopped, -, rfl⟩ := act?_finish hact
    exact .inl hflag
  | fail v =>
    obtain ⟨n, stopped, -, rfl⟩ := act?_fail hact
    exact .inl hflag
  | recover v =>
    obtain ⟨n, stopped, -, ⟨-, rfl⟩ | ⟨-, rfl⟩⟩ := act?_recover hact <;> exact .inl hflag
  | proceed v =>
    obtain ⟨n, stopped, -, ⟨-, rfl⟩ | ⟨-, -, rfl⟩⟩ := act?_proceed hact <;> exact .inl hflag

/-- A worker takes the oldest notification. -/
structure Begins (d d' : Dispatch) (action : Action) (w : Nat) (phase : Phase) (n : Notification) :
    Prop where
  takes : action = .take w
  phase : phase = .taken n
  pending : ∃ rest, d.pending = n :: rest
  awaiting : d'.awaiting = true
  acknowledged : d'.acknowledged = false

/-- A worker was at work on the notification before. -/
structure GoesOn (d d' : Dispatch) (action : Action) (w : Nat) (worker : Worker) (n : Notification)
    (before : Worker) : Prop where
  workers : d.workers[w]? = some before
  current : before.phase.current? = some n
  notTakes : action ≠ .take w
  calls : worker.phase.calls = before.phase.calls + List.count (Action.call w) [action]
  running : worker.stopped = false → before.stopped = false
  /-- The worker itself leaves the flags alone. -/
  flags : action.worker? = some w → d'.awaiting = d.awaiting ∧ d'.acknowledged = d.acknowledged

/-- What others do does not change what a worker is at work on. -/
theorem GoesOn.of_others {phase : Phase} {stopped stopped' : Bool} (haction : action.worker? ≠ some w)
    (hw : d.workers[w]? = some ⟨phase, stopped⟩) (hn : phase.current? = some n)
    (hrunning : stopped' = false → stopped = false) :
    GoesOn d d' action w ⟨phase, stopped'⟩ n ⟨phase, stopped⟩ where
  workers := hw
  current := hn
  notTakes := by rintro rfl; exact haction rfl
  calls := by
    have hcalls : action ≠ .call w := by rintro rfl; exact haction rfl
    simp [hcalls]
  running := hrunning
  flags h := absurd h haction

theorem getElem?_enter {worker : Worker} {phase : Phase} (hw : d.workers[w]? = some worker) :
    (d.enter w worker phase).workers[w]? = some { worker with phase } :=
  List.getElem?_set_self (List.getElem?_eq_some_iff.1 hw).1

/-- How a worker came to be at work on a notification by an action of its own. -/
theorem current_own {phase : Phase} {stopped : Bool} (hact : d.act? action = some d')
    (haction : action.worker? = some w) (hw : d'.workers[w]? = some ⟨phase, stopped⟩)
    (hn : phase.current? = some n) :
    Begins d d' action w phase n ∨ ∃ before, GoesOn d d' action w ⟨phase, stopped⟩ n before := by
  cases action with
  | take v =>
    cases haction
    obtain ⟨stopped₀, hw₀, ⟨-, rfl⟩ | ⟨-, m, rest, hpending, rfl⟩⟩ := act?_take hact
    · cases (getElem?_enter hw₀).symm.trans hw
      cases hn
    · cases (getElem?_enter hw₀).symm.trans hw
      cases hn
      exact .inl ⟨rfl, rfl, ⟨rest, hpending⟩, rfl, rfl⟩
  | call v =>
    cases haction
    obtain ⟨m, stopped₀, hw₀, rfl⟩ := act?_call hact
    cases (getElem?_enter hw₀).symm.trans hw
    exact .inr ⟨_, hw₀, hn, by simp, by simp [Phase.calls], id, fun _ => ⟨rfl, rfl⟩⟩
  | finish v =>
    cases haction
    obtain ⟨m, stopped₀, hw₀, rfl⟩ := act?_finish hact
    cases (getElem?_enter hw₀).symm.trans hw
    exact .inr ⟨_, hw₀, hn, by simp, by simp [Phase.calls], id, fun _ => ⟨rfl, rfl⟩⟩
  | fail v =>
    cases haction
    obtain ⟨m, stopped₀, hw₀, rfl⟩ := act?_fail hact
    cases (getElem?_enter hw₀).symm.trans hw
    cases hn
  | recover v =>
    cases haction
    obtain ⟨m, stopped₀, hw₀, ⟨-, rfl⟩ | ⟨-, rfl⟩⟩ := act?_recover hact <;>
      · cases (getElem?_enter hw₀).symm.trans hw
        cases hn
  | proceed v =>
    cases haction
    obtain ⟨m, stopped₀, hw₀, ⟨-, rfl⟩ | ⟨-, -, rfl⟩⟩ := act?_proceed hact <;>
      · cases (getElem?_enter hw₀).symm.trans hw
        cases hn
  | _ => cases haction

/-- A worker has just taken what it is at work on, or it was at work on it before. -/
theorem current_step {phase : Phase} {stopped : Bool} (hact : d.act? action = some d')
    (hw : d'.workers[w]? = some ⟨phase, stopped⟩) (hn : phase.current? = some n) :
    Begins d d' action w phase n ∨ ∃ before, GoesOn d d' action w ⟨phase, stopped⟩ n before := by
  rcases hv : action.worker? with _ | v
  · have hothers : action.worker? ≠ some w := by simp [hv]
    right
    cases action with
    | add m => cases hact; exact ⟨_, .of_others hothers hw hn id⟩
    | acknowledge => cases hact; split at hw <;> exact ⟨_, .of_others hothers hw hn id⟩
    | launch =>
      cases hact
      rcases Nat.lt_or_ge w d.workers.length with hlt | hge
      · rw [List.getElem?_append_left hlt] at hw
        exact ⟨_, .of_others hothers hw hn id⟩
      · -- the new worker has nothing to do yet
        rw [List.getElem?_append_right hge, List.getElem?_singleton] at hw
        split at hw <;> cases hw
        cases hn
    | signal =>
      simp only [act?] at hact
      split at hact
      · cases hact
        rw [getElem?_signalLast] at hw
        obtain ⟨⟨phase₀, stopped₀⟩, hw₀, heq⟩ := Option.map_eq_some_iff.1 hw
        split at heq <;> cases heq
        · exact ⟨_, .of_others hothers hw₀ hn (by simp)⟩
        · exact ⟨_, .of_others hothers hw₀ hn id⟩
      · cases hact
    | forget => cases hact; exact ⟨_, .of_others hothers hw hn id⟩
    | _ => cases hv
  · obtain ⟨worker₀, phase₀, turn⟩ := exists_turn hact hv
    by_cases hvw : w = v
    · subst hvw
      exact current_own hact hv hw hn
    · have hothers : action.worker? ≠ some w := by simpa [hv] using Ne.symm hvw
      rw [turn.getElem?_workers_of_ne hvw] at hw
      exact .inr ⟨_, .of_others hothers hw hn id⟩

/-- While a worker that is not stopped is at work, an orderly run lowers neither flag, and an acknowledgement
raises the one for acknowledgements. -/
theorem StoodDown.flags_step {phase : Phase} {before : Worker} (h : StoodDown d)
    (hpermitted : d.Permitted action) (hact : d.act? action = some d')
    (hw : d'.workers[w]? = some ⟨phase, false⟩) (goesOn : GoesOn d d' action w ⟨phase, false⟩ n before)
    (hawaiting : d.awaiting = true) :
    d'.awaiting = true ∧ (d.acknowledged = true ∨ action = .acknowledge → d'.acknowledged = true) := by
  have hrunning : before.stopped = false := goesOn.running rfl
  rcases hv : action.worker? with _ | v
  · cases action with
    | add m => cases hact; exact ⟨hawaiting, by rintro (hflag | ⟨⟨⟩⟩); exact hflag⟩
    | acknowledge =>
      cases hact
      rw [if_pos hawaiting]
      exact ⟨hawaiting, fun _ => rfl⟩
    | launch =>
      -- the queue holds on to no worker, so none is running
      have hretired := h w before goesOn.workers (.inr hpermitted)
      exact absurd hretired.1 (by simp [hrunning])
    | signal =>
      simp only [act?] at hact
      split at hact
      · cases hact
        rw [getElem?_signalLast, goesOn.workers] at hw
        split at hw
        · cases hw
        · next hlast =>
          have hlt := (List.getElem?_eq_some_iff.1 goesOn.workers).1
          have hretired := h w before goesOn.workers (.inl (by omega))
          exact absurd hretired.1 (by simp [hrunning])
      · cases hact
    | forget => cases hact; exact ⟨hawaiting, by rintro (hflag | ⟨⟨⟩⟩); exact hflag⟩
    | _ => cases hv
  · have hflags : d'.awaiting = d.awaiting ∧ d'.acknowledged = d.acknowledged := by
      by_cases hvw : v = w
      · exact goesOn.flags (hvw ▸ hv)
      · obtain ⟨other, phase', turn⟩ := exists_turn hact hv
        cases hother : other.stopped with
        | true => exact (turn.harmless hother).2
        -- two workers would be running
        | false => exact absurd (h.eq_of_unstopped turn.acts goesOn.workers hother hrunning) hvw
    refine ⟨hflags.1.trans hawaiting, ?_⟩
    rintro (hflag | rfl)
    · exact hflags.2.trans hflag
    · cases hv

end Step

/-! ### Since a notification was taken -/

/-- The notification was taken by the worker, which has taken no other one since. -/
structure TakenBefore (trace : List Action) (w : Nat) (n : Notification) (after : List Action) :
    Prop where
  oldest : ∃ earlier rest d₀, trace = earlier ++ .take w :: after ∧ Run earlier d₀ ∧
    d₀.pending = n :: rest
  last : .take w ∉ after

section Runs

variable {trace after : List Action} {d : Dispatch} {action : Action} {w : Nat} {phase : Phase}
  {stopped : Bool} {n : Notification}

theorem TakenBefore.append_singleton (h : TakenBefore trace w n after) (htakes : action ≠ .take w) :
    TakenBefore (trace ++ [action]) w n (after ++ [action]) where
  oldest := by
    obtain ⟨earlier, rest, d₀, rfl, run, hpending⟩ := h.oldest
    exact ⟨earlier, rest, d₀, by simp, run, hpending⟩
  last := by simp [h.last, htakes.symm]

/-- **What a worker is at work on was taken once, and the flag is raised only by an acknowledgement
since.** -/
theorem Run.attended (run : Run trace d) (hw : d.workers[w]? = some ⟨phase, stopped⟩)
    (hn : phase.current? = some n) :
    ∃ after, TakenBefore trace w n after ∧ after.count (.call w) = phase.calls ∧
      (d.acknowledged = true → .acknowledge ∈ after) := by
  induction run generalizing phase stopped n with
  | start => cases hw
  | @step trace d d' action run hact ih =>
    rcases current_step hact hw hn with begins | ⟨⟨phase₀, stopped₀⟩, goesOn⟩
    · obtain ⟨rest, hpending⟩ := begins.pending
      cases begins.takes
      refine ⟨[], ⟨⟨trace, rest, d, rfl, run, hpending⟩, by simp⟩, ?_, ?_⟩
      · rw [begins.phase]; rfl
      · simp [begins.acknowledged]
    · obtain ⟨after, htaken, hcalls, hflag⟩ := ih goesOn.workers goesOn.current
      refine ⟨after ++ [action], htaken.append_singleton goesOn.notTakes, ?_, fun hset => ?_⟩
      · rw [List.count_append, hcalls, ← goesOn.calls]
      · rcases acknowledged_step hact hset with hset | rfl
        · exact List.mem_append_left _ (hflag hset)
        · simp

/-- The last element of a list stands last in what follows another one. -/
theorem exists_eq_append_singleton {α : Type} {l earlier after : List α} {a b : α}
    (h : l ++ [a] = earlier ++ b :: after) (hne : after ≠ []) :
    ∃ since, after = since ++ [a] ∧ l = earlier ++ b :: since := by
  obtain ⟨since, last, rfl⟩ := (List.eq_nil_or_concat' after).resolve_left hne
  rw [← List.cons_append, ← List.append_assoc] at h
  obtain ⟨rfl, hlast⟩ := List.append_inj' h rfl
  cases hlast
  exact ⟨since, rfl, rfl⟩

/-- **In an orderly run, all acknowledgements count since a notification was taken.** -/
theorem OrderlyRun.attended (run : OrderlyRun trace d) (hw : d.workers[w]? = some ⟨phase, false⟩)
    (hn : phase.current? = some n) :
    d.awaiting = true ∧ ∀ earlier after, trace = earlier ++ .take w :: after → .take w ∉ after →
      .acknowledge ∈ after → d.acknowledged = true := by
  induction run generalizing phase n with
  | start => cases hw
  | @step trace d d' action run hact ih =>
    obtain ⟨hpermitted, hact⟩ := orderlyAct?_eq_some_iff.1 hact
    rcases current_step hact hw hn with begins | ⟨⟨phase₀, stopped₀⟩, goesOn⟩
    · -- nothing has happened since, so there has been no acknowledgement
      refine ⟨begins.awaiting, fun earlier after heq hlast hmem => ?_⟩
      obtain ⟨since, rfl, -⟩ := exists_eq_append_singleton heq (List.ne_nil_of_mem hmem)
      exact absurd (by simp [begins.takes]) hlast
    · cases goesOn.running rfl
      obtain ⟨hawaiting, hcounts⟩ := ih goesOn.workers goesOn.current
      obtain ⟨hawaiting', hflag⟩ := (OrderlyRun.stoodDown run).flags_step hpermitted hact hw goesOn hawaiting
      refine ⟨hawaiting', fun earlier after heq hlast hmem => hflag ?_⟩
      obtain ⟨since, rfl, htrace⟩ := exists_eq_append_singleton heq (List.ne_nil_of_mem hmem)
      rcases List.mem_append.1 hmem with hmem | hmem
      · exact .inl (hcounts earlier since htrace (fun h => hlast (List.mem_append_left _ h)) hmem)
      · exact .inr (List.mem_singleton.1 hmem).symm

end Runs

/-! ### Main statement -/

theorem isSome_act?_proceed {d : Dispatch} {w : Nat} {n : Notification} {stopped : Bool}
    (hw : d.workers[w]? = some ⟨.presented n, stopped⟩) :
    (d.act? (.proceed w)).isSome ↔ stopped = true ∨ d.acknowledged = true := by
  simp only [act?, hw, proceed?]
  cases stopped <;> cases d.acknowledged <;> simp

/-- **A worker leaves the wait for an acknowledgement only when there has been one since its notification was
taken, or when it is stopped.** A worker that waits has taken its notification, which was the oldest one then,
and has called the presenter once since. In orderly runs, it can leave the wait after any acknowledgement since
it took the notification, also after one from before the call of the presenter. -/
theorem leaves_wait_since_take {trace : List Action} {d : Dispatch} (run : Run trace d) {w : Nat}
    {n : Notification} {stopped : Bool} (hw : d.workers[w]? = some ⟨.presented n, stopped⟩) :
    ∃ earlier held since rest d₀, trace = earlier ++ .take w :: held ++ .call w :: since ∧
      Run earlier d₀ ∧ d₀.pending = n :: rest ∧ .take w ∉ held ++ since ∧ .call w ∉ held ++ since ∧
      ((d.act? (.proceed w)).isSome → stopped = true ∨ .acknowledge ∈ held ++ since) ∧
      (OrderlyRun trace d → stopped = true ∨ .acknowledge ∈ held ++ since →
        (d.act? (.proceed w)).isSome) := by
  obtain ⟨after, htaken, hcalls, hflag⟩ := run.attended hw rfl
  obtain ⟨earlier, rest, d₀, rfl, run₀, hpending⟩ := htaken.oldest
  have hone : after.count (.call w) = 1 := hcalls
  obtain ⟨held, since, rfl⟩ := List.append_of_mem (List.count_pos_iff.1 (by omega : 0 < after.count (.call w)))
  have hlast := htaken.last
  have hmem : ∀ action, action ≠ .call w →
      (action ∈ held ++ .call w :: since ↔ action ∈ held ++ since) := by
    intro action hne
    simp [hne]
  rw [hmem _ (by simp)] at hlast
  rw [hmem _ (by simp)] at hflag
  refine ⟨earlier, held, since, rest, d₀, by simp, run₀, hpending, hlast, ?_, ?_, ?_⟩
  · rw [List.count_append, List.count_cons_self] at hone
    rw [← List.count_eq_zero, List.count_append]
    omega
  · rw [isSome_act?_proceed hw]
    exact Or.imp_right hflag
  · intro orderly hleaves
    rw [isSome_act?_proceed hw]
    cases stopped with
    | true => exact .inl rfl
    | false =>
      refine .inr ((orderly.attended hw rfl).2 earlier _ rfl htaken.last ?_)
      exact (hmem _ (by simp)).2 (hleaves.resolve_left (by simp))

/-- The display acknowledges the first of two notifications twice, before the second one is taken. -/
theorem leaves_wait_since_take_twice :
    ∃ trace d, trace = [.add ⟨"a", [], 0⟩, .add ⟨"b", [], 0⟩, .launch, .take 0, .call 0, .finish 0,
        .acknowledge, .acknowledge, .proceed 0, .take 0, .call 0, .finish 0] ∧
      Run trace d ∧ d.workers[0]? = some ⟨.presented ⟨"b", [], 0⟩, false⟩ ∧
      d.act? (.proceed 0) = none ∧
      ∃ earlier held since rest d₀, trace = earlier ++ .take 0 :: held ++ .call 0 :: since ∧
        Run earlier d₀ ∧ d₀.pending = ⟨"b", [], 0⟩ :: rest ∧ .take 0 ∉ held ++ since ∧
        .call 0 ∉ held ++ since ∧
        ((d.act? (.proceed 0)).isSome → false = true ∨ .acknowledge ∈ held ++ since) ∧
        (OrderlyRun trace d → false = true ∨ .acknowledge ∈ held ++ since →
          (d.act? (.proceed 0)).isSome) := by
  have run := run_iff_foldlM.2 (rfl : List.foldlM act? {}
    [.add ⟨"a", [], 0⟩, .add ⟨"b", [], 0⟩, .launch, .take 0, .call 0, .finish 0,
      .acknowledge, .acknowledge, .proceed 0, .take 0, .call 0, .finish 0] = some _)
  exact ⟨_, _, rfl, run, rfl, rfl, leaves_wait_since_take run rfl⟩

/-- The second acknowledgement of the first notification comes when the second one has been taken and the
presenter has not been called with it yet. It counts for the second one. -/
theorem not_acknowledged_since_call :
    ¬∀ (earlier since : List Action) (d d' : Dispatch) (w : Nat) (n : Notification) (stopped : Bool),
      OrderlyRun (earlier ++ .call w :: since) d → .call w ∉ since →
        d.workers[w]? = some ⟨.presented n, stopped⟩ → d.act? (.proceed w) = some d' →
          stopped = true ∨ .acknowledge ∈ since := by
  intro h
  have run := runs_iff_foldlM.2 (rfl : List.foldlM orderlyAct? {}
    ([.add ⟨"a", [], 0⟩, .add ⟨"b", [], 0⟩, .launch, .take 0, .call 0, .finish 0, .acknowledge, .proceed 0,
      .take 0, .acknowledge] ++ .call 0 :: [.finish 0]) = some _)
  have hsince := h _ _ _ _ 0 ⟨"b", [], 0⟩ false run (by decide) rfl rfl
  revert hsince
  decide

end JournalHerald.Dispatch

import JournalHerald.Proofs.Dispatch.Steps

/-!
# The order of presentations

A queue that is started once and not stopped shows its notifications in the order in which they
were added, and it is done with one of them before it calls the presenter with the next one. To be
done means that the presenter has failed, or that it has returned and the display has acknowledged
since the notification was taken.

Two facts are kept along a run. What has been added is what has been shown, what the worker holds
and what is pending, in this order. And the phase of the worker tells how the trace ends
(`Tracks`), so that an acknowledgement can be found in the trace when the worker goes by the flag.

* `SingleStart` are the traces with at most one start and no stop;
* `Done` says that what the presenter was last called with is done with;
* `Waiting` and `Serving` are what is kept before the start and after it.
-/

namespace JournalHerald.Dispatch

/-- The queue is started at most once and never stopped. -/
structure SingleStart (trace : List Action) : Prop where
  launches : trace.count .launch ≤ 1
  noSignal : .signal ∉ trace
  noForget : .forget ∉ trace

theorem SingleStart.of_append {trace later : List Action} (h : SingleStart (trace ++ later)) :
    SingleStart trace where
  launches := by have := h.launches; rw [List.count_append] at this; omega
  noSignal hmem := h.noSignal (List.mem_append_left _ hmem)
  noForget hmem := h.noForget (List.mem_append_left _ hmem)

/-! ### How a trace ends -/

/-- No worker takes a notification and none calls the presenter. -/
def Quiet (trace : List Action) : Prop :=
  (∀ w, .take w ∉ trace) ∧ ∀ w, .call w ∉ trace

theorem quiet_nil : Quiet [] := by
  simp [Quiet]

theorem Quiet.append {trace later : List Action} (h : Quiet trace) (h' : Quiet later) :
    Quiet (trace ++ later) :=
  ⟨fun w hw => (List.mem_append.1 hw).elim (h.1 w) (h'.1 w),
    fun w hw => (List.mem_append.1 hw).elim (h.2 w) (h'.2 w)⟩

/-- The last notification was taken, and then the presenter was called with it; `held` is what
happened between the two, and `since` what has happened since the call. -/
structure Called (trace held since : List Action) : Prop where
  eq : ∃ earlier, trace = earlier ++ .take 0 :: held ++ .call 0 :: since
  held : Quiet held
  since : Quiet since

/-- What the presenter was last called with is done with: the presenter has failed, or it has
returned and there has been an acknowledgement since the notification was taken. -/
def Done (held since : List Action) : Prop :=
  .fail 0 ∈ since ∨ (.finish 0 ∈ since ∧ .acknowledge ∈ held ++ since)

/-- Nothing has been called yet, or all of it is done with. -/
def Settled (trace : List Action) : Prop :=
  (∀ w, .call w ∉ trace) ∨ ∃ held since, Called trace held since ∧ Done held since

/-- How a trace ends, by the phase of the only worker. With the flag `acknowledged` set, there has
been an acknowledgement since the notification was taken. -/
def Tracks (trace : List Action) (acknowledged : Bool) : Phase → Prop
  | .idle => Settled trace
  | .taken _ => ∃ earlier held, trace = earlier ++ .take 0 :: held ∧ Settled earlier ∧ Quiet held ∧
      (acknowledged = true → .acknowledge ∈ held)
  | .presenting _ => ∃ held since, Called trace held since ∧
      (acknowledged = true → .acknowledge ∈ held ++ since)
  | .presented _ => ∃ held since, Called trace held since ∧ .finish 0 ∈ since ∧
      (acknowledged = true → .acknowledge ∈ held ++ since)
  | .failed _ => ∃ held since, Called trace held since ∧ .fail 0 ∈ since
  | .ended => False

theorem Called.append {trace held since later : List Action} (h : Called trace held since)
    (hlater : Quiet later) : Called (trace ++ later) held (since ++ later) where
  eq := by
    obtain ⟨earlier, rfl⟩ := h.eq
    exact ⟨earlier, by simp⟩
  held := h.held
  since := h.since.append hlater

theorem Done.append {held since : List Action} (later : List Action) (h : Done held since) :
    Done held (since ++ later) := by
  rcases h with hfail | ⟨hfinish, hack⟩
  · exact .inl (List.mem_append_left _ hfail)
  · refine .inr ⟨List.mem_append_left _ hfinish, ?_⟩
    rw [← List.append_assoc]
    exact List.mem_append_left _ hack

theorem Settled.append {trace later : List Action} (h : Settled trace) (hlater : Quiet later) :
    Settled (trace ++ later) := by
  rcases h with hnone | ⟨held, since, hcalled, hdone⟩
  · exact .inl fun w hw => (List.mem_append.1 hw).elim (hnone w) (hlater.2 w)
  · exact .inr ⟨held, since ++ later, hcalled.append hlater, hdone.append later⟩

/-- What somebody else does changes nothing but the flag, and the flag only with an
acknowledgement. -/
theorem Tracks.append {trace later : List Action} {flag flag' : Bool} {phase : Phase}
    (h : Tracks trace flag phase) (hlater : Quiet later)
    (hflag : flag' = true → flag = true ∨ .acknowledge ∈ later) :
    Tracks (trace ++ later) flag' phase := by
  cases phase with
  | idle => exact Settled.append h hlater
  | taken n =>
    obtain ⟨earlier, held, rfl, hsettled, hquiet, hack⟩ := h
    refine ⟨earlier, held ++ later, by simp, hsettled, hquiet.append hlater, fun hset => ?_⟩
    exact List.mem_append.2 ((hflag hset).imp hack id)
  | presenting n =>
    obtain ⟨held, since, hcalled, hack⟩ := h
    refine ⟨held, since ++ later, hcalled.append hlater, fun hset => ?_⟩
    rw [← List.append_assoc]
    exact List.mem_append.2 ((hflag hset).imp hack id)
  | presented n =>
    obtain ⟨held, since, hcalled, hfinish, hack⟩ := h
    refine ⟨held, since ++ later, hcalled.append hlater, List.mem_append_left _ hfinish,
      fun hset => ?_⟩
    rw [← List.append_assoc]
    exact List.mem_append.2 ((hflag hset).imp hack id)
  | failed n =>
    obtain ⟨held, since, hcalled, hfail⟩ := h
    exact ⟨held, since ++ later, hcalled.append hlater, List.mem_append_left _ hfail⟩
  | ended => exact h

/-! ### The invariant -/

/-- What a worker has taken and not yet called the presenter with. -/
def inHand : Phase → List Notification
  | .taken n => [n]
  | _ => []

/-- The queue has one worker, which no stop signal has reached. -/
structure Serving (trace : List Action) (d : Dispatch) (phase : Phase) : Prop where
  workers : d.workers = [⟨phase, false⟩]
  launched : .launch ∈ trace
  /-- Nothing is lost, and nothing changes its place. -/
  conserved : added trace = d.shown ++ inHand phase ++ d.pending
  tracks : Tracks trace d.acknowledged phase

/-- The queue has not been started. -/
structure Waiting (trace : List Action) (d : Dispatch) : Prop where
  workers : d.workers = []
  conserved : added trace = d.shown ++ d.pending
  noCall : ∀ w, .call w ∉ trace

theorem Waiting.not_worker {trace : List Action} {d : Dispatch} (h : Waiting trace d) {w : Nat}
    {worker : Worker} (hw : d.workers[w]? = some worker) : False := by
  rw [h.workers] at hw
  cases hw

theorem Serving.worker_eq {trace : List Action} {d : Dispatch} {phase : Phase}
    (h : Serving trace d phase) {w : Nat} {worker : Worker} (hw : d.workers[w]? = some worker) :
    w = 0 ∧ worker = ⟨phase, false⟩ := by
  rw [h.workers] at hw
  cases w with
  | zero => exact ⟨rfl, (Option.some.inj hw).symm⟩
  | succ w => cases hw

theorem enter_workers {d : Dispatch} {worker : Worker} (h : d.workers = [worker]) (phase : Phase) :
    (d.enter 0 worker phase).workers = [{ worker with phase }] := by
  simp [enter, h]

theorem Waiting.step {trace : List Action} {d d' : Dispatch} {action : Action} (h : Waiting trace d)
    (single : SingleStart (trace ++ [action])) (hact : d.act? action = some d') :
    Waiting (trace ++ [action]) d' ∨ Serving (trace ++ [action]) d' .idle := by
  have hcons := h.conserved
  cases action with
  | add n =>
    cases hact
    exact .inl ⟨h.workers, by simp [hcons], by simpa using h.noCall⟩
  | acknowledge =>
    cases hact
    refine .inl ⟨?_, ?_, by simpa using h.noCall⟩
    · split <;> exact h.workers
    · have hadded : added (trace ++ [.acknowledge]) = added trace := by simp [added]
      rw [hadded, hcons]
      split <;> rfl
  | launch =>
    cases hact
    have hadded : added (trace ++ [.launch]) = added trace := by simp [added]
    refine .inr ⟨by simp [h.workers], by simp, ?_, .inl (by simpa using h.noCall)⟩
    rw [hadded, hcons]
    simp [inHand]
  | signal => exact absurd (List.mem_append_right _ (List.mem_singleton.2 rfl)) single.noSignal
  | forget => exact absurd (List.mem_append_right _ (List.mem_singleton.2 rfl)) single.noForget
  | take w =>
    obtain ⟨_, hw, -⟩ := act?_take hact
    exact (h.not_worker hw).elim
  | call w =>
    obtain ⟨_, _, hw, -⟩ := act?_call hact
    exact (h.not_worker hw).elim
  | finish w =>
    obtain ⟨_, _, hw, -⟩ := act?_finish hact
    exact (h.not_worker hw).elim
  | fail w =>
    obtain ⟨_, _, hw, -⟩ := act?_fail hact
    exact (h.not_worker hw).elim
  | recover w =>
    obtain ⟨_, _, hw, -⟩ := act?_recover hact
    exact (h.not_worker hw).elim
  | proceed w =>
    obtain ⟨_, _, hw, -⟩ := act?_proceed hact
    exact (h.not_worker hw).elim

/-- An action that adds nothing leaves what has been added. -/
theorem added_append_singleton {trace : List Action} {action : Action} (h : ∀ n, action ≠ .add n) :
    added (trace ++ [action]) = added trace := by
  cases action with
  | add n => exact absurd rfl (h n)
  | _ => simp [added]

theorem quiet_singleton {action : Action} (htake : ∀ w, action ≠ .take w)
    (hcall : ∀ w, action ≠ .call w) : Quiet [action] := by
  constructor
  · intro w hw
    exact htake w (List.mem_singleton.1 hw).symm
  · intro w hw
    exact hcall w (List.mem_singleton.1 hw).symm

/-- The queue goes on being served when notifications only move from one of the three places to
the next. -/
theorem Serving.next {trace : List Action} {d d' : Dispatch} {phase phase' : Phase}
    {action : Action} (h : Serving trace d phase) (hadd : ∀ n, action ≠ .add n)
    (workers : d'.workers = [⟨phase', false⟩])
    (moved : d'.shown ++ inHand phase' ++ d'.pending = d.shown ++ inHand phase ++ d.pending)
    (tracks : Tracks (trace ++ [action]) d'.acknowledged phase') :
    Serving (trace ++ [action]) d' phase' where
  workers := workers
  launched := List.mem_append_left _ h.launched
  conserved := by rw [added_append_singleton hadd, h.conserved, moved]
  tracks := tracks

theorem Serving.step {trace : List Action} {d d' : Dispatch} {phase : Phase} {action : Action}
    (h : Serving trace d phase) (single : SingleStart (trace ++ [action]))
    (hact : d.act? action = some d') : ∃ phase', Serving (trace ++ [action]) d' phase' := by
  have htracks := h.tracks
  cases action with
  | add n =>
    cases hact
    refine ⟨phase, h.workers, List.mem_append_left _ h.launched, by simp [h.conserved], ?_⟩
    exact htracks.append (quiet_singleton (by simp) (by simp)) .inl
  | acknowledge =>
    cases hact
    have hquiet : Quiet [.acknowledge] := quiet_singleton (by simp) (by simp)
    refine ⟨phase, h.next (by simp) ?_ ?_ ?_⟩
    · split <;> exact h.workers
    · split <;> rfl
    · exact htracks.append hquiet fun _ => .inr (List.mem_singleton.2 rfl)
  | launch =>
    -- the trace would have two starts
    have hone := single.launches
    have hpos := List.count_pos_iff.2 h.launched
    rw [List.count_append, List.count_singleton_self] at hone
    omega
  | signal => exact absurd (List.mem_append_right _ (List.mem_singleton.2 rfl)) single.noSignal
  | forget => exact absurd (List.mem_append_right _ (List.mem_singleton.2 rfl)) single.noForget
  | take w =>
    rcases act?_take hact with ⟨stopped, hw, hcase⟩
    rcases h.worker_eq hw with ⟨rfl, he⟩
    cases he
    rcases hcase with ⟨⟨⟩, -⟩ | ⟨-, n, rest, hpending, rfl⟩
    refine ⟨.taken n, h.next (by simp) (enter_workers h.workers _) ?_ ?_⟩
    · simp [inHand, enter, hpending]
    · exact ⟨trace, [], rfl, htracks, quiet_nil, by rintro ⟨⟩⟩
  | call w =>
    rcases act?_call hact with ⟨n, stopped, hw, rfl⟩
    rcases h.worker_eq hw with ⟨rfl, he⟩
    cases he
    rcases htracks with ⟨earlier, held, rfl, -, hquiet, hack⟩
    refine ⟨.presenting n, h.next (by simp) (enter_workers h.workers _) ?_ ?_⟩
    · simp [inHand, enter]
    · exact ⟨held, [], ⟨⟨earlier, rfl⟩, hquiet, quiet_nil⟩, by rw [List.append_nil]; exact hack⟩
  | finish w =>
    rcases act?_finish hact with ⟨n, stopped, hw, rfl⟩
    rcases h.worker_eq hw with ⟨rfl, he⟩
    cases he
    have hquiet : Quiet [.finish 0] := quiet_singleton (by simp) (by simp)
    rcases htracks with ⟨held, since, hcalled, hack⟩
    refine ⟨.presented n, h.next (by simp) (enter_workers h.workers _) rfl ?_⟩
    refine ⟨held, since ++ [.finish 0], hcalled.append hquiet, by simp, fun hset => ?_⟩
    rw [← List.append_assoc]
    exact List.mem_append_left _ (hack hset)
  | fail w =>
    rcases act?_fail hact with ⟨n, stopped, hw, rfl⟩
    rcases h.worker_eq hw with ⟨rfl, he⟩
    cases he
    have hquiet : Quiet [.fail 0] := quiet_singleton (by simp) (by simp)
    rcases htracks with ⟨held, since, hcalled, -⟩
    refine ⟨.failed n, h.next (by simp) (enter_workers h.workers _) rfl ?_⟩
    exact ⟨held, since ++ [.fail 0], hcalled.append hquiet, by simp⟩
  | recover w =>
    rcases act?_recover hact with ⟨n, stopped, hw, hcase⟩
    rcases h.worker_eq hw with ⟨rfl, he⟩
    cases he
    rcases hcase with ⟨⟨⟩, -⟩ | ⟨-, rfl⟩
    have hquiet : Quiet [.recover 0] := quiet_singleton (by simp) (by simp)
    rcases htracks with ⟨held, since, hcalled, hfail⟩
    refine ⟨.idle, h.next (by simp) (enter_workers h.workers _) rfl ?_⟩
    exact Settled.append (.inr ⟨held, since, hcalled, .inl hfail⟩) hquiet
  | proceed w =>
    rcases act?_proceed hact with ⟨n, stopped, hw, hcase⟩
    rcases h.worker_eq hw with ⟨rfl, he⟩
    cases he
    rcases hcase with ⟨⟨⟩, -⟩ | ⟨-, hset, rfl⟩
    have hquiet : Quiet [.proceed 0] := quiet_singleton (by simp) (by simp)
    rcases htracks with ⟨held, since, hcalled, hfinish, hack⟩
    refine ⟨.idle, h.next (by simp) (enter_workers h.workers _) rfl ?_⟩
    exact Settled.append (.inr ⟨held, since, hcalled, .inr ⟨hfinish, hack hset⟩⟩) hquiet

/-- **Along a run with a single start, the queue waits for it or is served by one worker.** -/
theorem Run.waiting_or_serving {trace : List Action} {d : Dispatch} (run : Run trace d)
    (single : SingleStart trace) : Waiting trace d ∨ ∃ phase, Serving trace d phase := by
  induction run with
  | start => exact .inl ⟨rfl, rfl, by simp⟩
  | step run hact ih =>
    rcases ih single.of_append with hwaiting | ⟨phase, hserving⟩
    · exact (hwaiting.step single hact).imp_right fun h => ⟨.idle, h⟩
    · exact .inr (hserving.step single hact)

/-! ### Main statement -/

theorem Run.shown_prefix {trace : List Action} {d : Dispatch} (run : Run trace d)
    (single : SingleStart trace) : d.shown <+: added trace := by
  rcases run.waiting_or_serving single with h | ⟨phase, h⟩
  · exact ⟨d.pending, h.conserved.symm⟩
  · exact ⟨inHand phase ++ d.pending, by rw [h.conserved, List.append_assoc]⟩

/-- The last element of a kind is in one place only. -/
theorem eq_of_append_cons_eq {α : Type} (kind : α → Prop) {as bs as' bs' : List α} {a b : α}
    (h : as ++ a :: bs = as' ++ b :: bs') (ha : kind a) (hb : kind b) (hbs : ∀ x ∈ bs, ¬kind x)
    (hbs' : ∀ x ∈ bs', ¬kind x) : as = as' ∧ a = b ∧ bs = bs' := by
  rcases List.append_eq_append_iff.1 h with ⟨cs, rfl, hcs⟩ | ⟨cs, rfl, hcs⟩
  · cases cs with
    | nil => cases hcs; exact ⟨(List.append_nil _).symm, rfl, rfl⟩
    | cons c cs => cases hcs; exact absurd hb (hbs b (by simp))
  · cases cs with
    | nil => cases hcs; exact ⟨List.append_nil _, rfl, rfl⟩
    | cons c cs => cases hcs; exact absurd ha (hbs' a (by simp))

/-- When the presenter is about to be called, what it was called with before is done with since a
moment before the next notification was taken. -/
theorem Run.done_of_call {earlier between : List Action} {d d' : Dispatch} {w v : Nat}
    (run : Run (earlier ++ .call w :: between) d)
    (single : SingleStart (earlier ++ .call w :: between))
    (hbetween : ∀ u, .call u ∉ between) (hact : d.act? (.call v) = some d') :
    ∃ first held since rest, earlier = first ++ .take w :: held ∧
      between = since ++ .take v :: rest ∧ Quiet held ∧ Quiet since ∧
        (.fail w ∈ since ∨ (.finish w ∈ since ∧ .acknowledge ∈ held ++ since)) := by
  obtain ⟨n, stopped, hv, -⟩ := act?_call hact
  rcases run.waiting_or_serving single with h | ⟨phase, h⟩
  · exact (h.not_worker hv).elim
  obtain ⟨rfl, he⟩ := h.worker_eq hv
  cases he
  obtain ⟨before, rest, htrace, hsettled, hrest, -⟩ := h.tracks
  rcases hsettled with hnone | ⟨held, since, ⟨⟨first, rfl⟩, hheld, hsince⟩, hdone⟩
  · -- the trace holds a call, but neither part of it does
    have hmem : .call w ∈ before ++ .take 0 :: rest := by rw [← htrace]; simp
    rcases List.mem_append.1 hmem with hmem | hmem
    · exact absurd hmem (hnone w)
    · exact absurd (by simpa using hmem) (hrest.2 w)
  have heq : earlier ++ .call w :: between =
      (first ++ .take 0 :: held) ++ .call 0 :: (since ++ .take 0 :: rest) := by
    rw [htrace]; simp
  obtain ⟨rfl, hw, rfl⟩ := eq_of_append_cons_eq (fun a => ∃ u, a = .call u) heq ⟨w, rfl⟩ ⟨0, rfl⟩
    (by rintro x hx ⟨u, rfl⟩; exact hbetween u hx)
    (by
      rintro x hx ⟨u, rfl⟩
      rcases List.mem_append.1 hx with hx | hx
      · exact hsince.2 u hx
      · exact hrest.2 u (by simpa using hx))
  cases hw
  exact ⟨first, held, since, rest, rfl, rfl, hheld, hsince, hdone⟩

/-- **Notifications are shown in the order in which they were added, and one after the other.**
Let `d` be the queue at any moment of a run with at most one start and no stop. What has been
shown is the beginning of what has been added. And between two calls of the presenter next to each
other, the first of them has failed, or it has returned and there has been an acknowledgement
since its notification was taken; this is so before the next notification is taken. -/
theorem shown_prefix_and_done_before_next {trace : List Action} {d : Dispatch} (run : Run trace d)
    (single : SingleStart trace) :
    d.shown <+: added trace ∧
    ∀ earlier between later w v, trace = earlier ++ .call w :: between ++ .call v :: later →
      (∀ u, .call u ∉ between) →
        ∃ first held since rest, earlier = first ++ .take w :: held ∧
          between = since ++ .take v :: rest ∧ Quiet held ∧ Quiet since ∧
            (.fail w ∈ since ∨ (.finish w ∈ since ∧ .acknowledge ∈ held ++ since)) := by
  refine ⟨run.shown_prefix single, ?_⟩
  rintro earlier between later w v rfl hbetween
  obtain ⟨d₀, d₁, run₀, hact⟩ := run.act?_of_append_cons
  exact run₀.done_of_call single.of_append hbetween hact

/-- Two notifications, the second of which is added while the first one is shown. The display
acknowledges the first one before its presenter returns. -/
theorem shown_prefix_and_done_before_next_two :
    ∃ trace d, trace = [.add ⟨"a", [], 0⟩, .launch, .take 0] ++ .call 0 ::
        [.add ⟨"b", [], 0⟩, .acknowledge, .finish 0, .proceed 0, .take 0] ++ .call 0 :: [] ∧
      Run trace d ∧ SingleStart trace ∧ d.shown = [⟨"a", [], 0⟩, ⟨"b", [], 0⟩] ∧
      d.shown <+: added trace ∧
      ∃ first held since rest, [.add ⟨"a", [], 0⟩, .launch, .take 0] = first ++ .take 0 :: held ∧
        [.add ⟨"b", [], 0⟩, .acknowledge, .finish 0, .proceed 0, .take 0] =
          since ++ .take 0 :: rest ∧
        Quiet held ∧ Quiet since ∧
          (.fail 0 ∈ since ∨ (.finish 0 ∈ since ∧ Action.acknowledge ∈ held ++ since)) := by
  have single : SingleStart ([.add ⟨"a", [], 0⟩, .launch, .take 0] ++ .call 0 ::
      [.add ⟨"b", [], 0⟩, .acknowledge, .finish 0, .proceed 0, .take 0] ++ .call 0 :: []) :=
    ⟨by decide, by decide, by decide⟩
  have run := run_iff_foldlM.2 (rfl : List.foldlM act? {}
    ([.add ⟨"a", [], 0⟩, .launch, .take 0] ++ .call 0 ::
      [.add ⟨"b", [], 0⟩, .acknowledge, .finish 0, .proceed 0, .take 0] ++ .call 0 :: []) = some _)
  obtain ⟨hshown, hdone⟩ := shown_prefix_and_done_before_next run single
  exact ⟨_, _, rfl, run, single, by decide, hshown, hdone _ _ _ _ _ rfl (by simp)⟩

end JournalHerald.Dispatch

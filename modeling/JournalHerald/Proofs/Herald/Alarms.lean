import JournalHerald.Proofs.Herald.Announcements
import JournalHerald.Proofs.Runs

/-!
# Alarms that are pending

Starts and stops of the herald take their steps while the alarms go off. A start stops the herald, makes it run
and at last sets an alarm; an alarm that goes off looks whether the herald runs, has the hour announced and sets
the next alarm. The steps of all of them may come in any order. A stop is one step, and so is the setting of an
alarm, because they shut each other out: what can still happen meanwhile (the herald is made to run, an alarm goes
off or looks) might as well happen before or after.

One alarm at a time would be enough, and as long as every start finds the herald at rest there is no more than
one. But an alarm that has gone off cannot tell the herald that it was set for from one that has been stopped and
started again: it sets another alarm beside that of the new start, and a stop cancels only the last of them. So
a start that makes the herald run among such steps can leave one alarm too many, which are counted.

* `Works` is the clockwork with the steps that are under way, `Move` one step, `move?` its effect;
* `start_runs` and `strike_runs` say that the herald takes these steps;
* `Sound` is what a step keeps, `Sound.move` the step and `sound_of_runs` the run;
* `pending_le` is the main result.
-/

namespace JournalHerald.Herald

/-! ### Stops -/

namespace Clockwork

theorem remembered_stop (c : Clockwork) : c.stop.remembered = none := by
  unfold stop cancel
  split
  · rfl
  · assumption

theorem length_stop_le (c : Clockwork) : c.stop.pending.length ≤ c.pending.length := by
  unfold stop cancel
  split
  · exact List.length_filter_le _ _
  · exact Nat.le_refl _

/-- A stop cancels the alarm that is remembered if that is pending. -/
theorem length_stop_lt {c : Clockwork} {alarm a : Alarm} (hremembered : c.remembered = some alarm)
    (ha : a ∈ c.pending) (hnumber : a.number = alarm.number) : c.stop.pending.length < c.pending.length := by
  have hstop : c.stop.pending = c.pending.filter fun a => a.number != alarm.number := by
    unfold stop cancel
    simp only [hremembered]
  rw [hstop, List.length_filter_lt_length_iff_exists]
  exact ⟨a, ha, by simp [hnumber]⟩

end Clockwork

/-! ### The steps of the herald -/

section

variable {h : Herald} (chronicle : Chronicle) (now : Timestamp)

theorem clockwork_progress (hu : h.Undisturbed) (percent : Int) : (h.progress percent).clockwork = h.clockwork := by
  rw [progress_eq hu]

theorem clockwork_notify (hu : h.Undisturbed) (header : Text) (event : Option Event) (filter : Bool)
    (format : Text) (duration : Int) :
    (h.notify chronicle header event filter format duration).1.clockwork = h.clockwork := by
  simp only [notify]
  cases chronicle.compose _ format with
  | error failure => rfl
  | ok parts =>
    show (h.tell _).clockwork = _
    rw [tell_eq hu]

/-- A start stops the clockwork, makes it run and sets the alarm. -/
theorem start_clockwork (hu : h.Undisturbed) :
    (h.start chronicle now).clockwork = h.clockwork.stop.run.set now.secondsToNextHour := by
  have hrun := (told_clockwork h h.clockwork.stop.run).undisturbed hu
  have hprogress := (told_progress _ 100).undisturbed hrun
  have hgreet := clockwork_notify chronicle hprogress greetingHeader none false greetingFormat greetingDuration
  exact congrArg (Clockwork.set _) (hgreet.trans (clockwork_progress hrun 100))

/-- On the hour the alarm is set anew if the herald runs. -/
theorem strike_clockwork (hu : h.Undisturbed) :
    (h.strike chronicle now).clockwork =
      if h.isRunning then h.clockwork.set now.secondsToNextHour else h.clockwork := by
  unfold strike
  split
  · dsimp only
    split
    · next a _ =>
      show Clockwork.set _ (announce chronicle a hourHeader none h).1.clockwork = _
      rw [announce, clockwork_notify _ hu]
    · rfl
  · rfl

end

/-! ### Steps in any order -/

/-- The clockwork and the steps that are under way. -/
structure Works where
  clockwork : Clockwork := {}
  /-- How many starts have stopped the herald and are about to make it run. -/
  stopped : Nat := 0
  /-- How many starts have made the herald run and are about to set an alarm. -/
  started : Nat := 0
  /-- The alarms that have gone off and are about to look whether the herald runs. -/
  ringing : List Alarm := []
  /-- The alarms that have found the herald running and are about to set the next one. -/
  announcing : List Alarm := []
  /-- How many starts have made the herald run while it ran already, another start was about to set an alarm or an
  alarm was under way. -/
  crowded : Nat := 0

/-- A step of a stop, of a start or of an alarm. -/
inductive Move where
  | stop
  /-- A start begins by stopping the herald. -/
  | start
  /-- A start makes the herald run. -/
  | run
  /-- A start sets its alarm. -/
  | finish (delay : Double)
  /-- An alarm goes off. -/
  | goOff (alarm : Alarm)
  /-- An alarm looks whether the herald runs. -/
  | look (alarm : Alarm)
  /-- An alarm sets the next one. -/
  | again (alarm : Alarm) (delay : Double)

namespace Works

/-- The herald runs, a start is about to set an alarm, or an alarm is under way. -/
def Crowded (w : Works) : Prop :=
  w.clockwork.running = true ∨ 0 < w.started ∨ w.ringing ≠ [] ∨ w.announcing ≠ []

instance (w : Works) : Decidable w.Crowded :=
  inferInstanceAs (Decidable (_ ∨ _ ∨ _ ∨ _))

/-- No start and no alarm is under way. -/
structure Quiet (w : Works) : Prop where
  stopped : w.stopped = 0
  started : w.started = 0
  ringing : w.ringing = []
  announcing : w.announcing = []

/-- The state after a step, if the step is possible. -/
def move? (w : Works) : Move → Option Works
  | .stop => some { w with clockwork := w.clockwork.stop }
  | .start => some { w with clockwork := w.clockwork.stop, stopped := w.stopped + 1 }
  | .run =>
    if 0 < w.stopped then
      some { w with
        clockwork := w.clockwork.run, stopped := w.stopped - 1, started := w.started + 1
        crowded := if w.Crowded then w.crowded + 1 else w.crowded }
    else none
  | .finish delay =>
    if 0 < w.started then some { w with clockwork := w.clockwork.set delay, started := w.started - 1 } else none
  | .goOff alarm =>
    if alarm ∈ w.clockwork.pending then
      some { w with clockwork := w.clockwork.goOff alarm, ringing := w.ringing ++ [alarm] }
    else none
  | .look alarm =>
    if alarm ∈ w.ringing then
      some { w with
        ringing := w.ringing.erase alarm
        announcing := if w.clockwork.running then w.announcing ++ [alarm] else w.announcing }
    else none
  | .again alarm delay =>
    if alarm ∈ w.announcing then
      some { w with clockwork := w.clockwork.set delay, announcing := w.announcing.erase alarm }
    else none

section

variable {h : Herald} (chronicle : Chronicle) (now : Timestamp)

/-- A start that nothing comes between takes its three steps. -/
theorem start_runs (hu : h.Undisturbed) :
    Runs move? { clockwork := h.clockwork } [.start, .run, .finish now.secondsToNextHour]
      { clockwork := (h.start chronicle now).clockwork } := by
  have hnotCrowded : ¬Crowded { clockwork := h.clockwork.stop, stopped := 1 } := by
    rintro (hrunning | hstarted | hringing | hannouncing)
    · rw [Clockwork.running_stop] at hrunning
      cases hrunning
    · cases hstarted
    · exact hringing rfl
    · exact hannouncing rfl
  rw [start_clockwork chronicle now hu]
  have hstart : Runs move? { clockwork := h.clockwork } [.start] { clockwork := h.clockwork.stop, stopped := 1 } :=
    .step .start rfl
  have hrun : move? { clockwork := h.clockwork.stop, stopped := 1 } .run =
      some { clockwork := h.clockwork.stop.run, started := 1 } := by
    rw [move?, if_pos Nat.one_pos, if_neg hnotCrowded]
    rfl
  exact (hstart.step hrun).step rfl

/-- An alarm that has gone off and that nothing comes between looks whether the herald runs, and sets the next one
if it does. -/
theorem strike_runs (hu : h.Undisturbed) (alarm : Alarm) :
    Runs move? { clockwork := h.clockwork, ringing := [alarm] }
      (.look alarm :: if h.isRunning then [.again alarm now.secondsToNextHour] else [])
      { clockwork := (h.strike chronicle now).clockwork } := by
  have hlook : move? { clockwork := h.clockwork, ringing := [alarm] } (.look alarm) =
      some { clockwork := h.clockwork, announcing := if h.isRunning then [alarm] else [] } := by
    rw [move?, if_pos (List.mem_singleton_self _), List.erase_cons_head]
    rfl
  have hlooked : Runs move? { clockwork := h.clockwork, ringing := [alarm] } [.look alarm] _ := .step .start hlook
  rw [strike_clockwork chronicle now hu]
  by_cases hrunning : h.isRunning = true
  · rw [if_pos hrunning] at hlooked ⊢
    rw [if_pos hrunning]
    refine hlooked.step (a := .again alarm _) ?_
    rw [move?, if_pos (List.mem_singleton_self _), List.erase_cons_head]
  · rw [if_neg hrunning] at hlooked ⊢
    rw [if_neg hrunning]
    exact hlooked

end

/-- The alarms that are pending or under way. -/
def alarms (w : Works) : List Alarm :=
  w.clockwork.pending ++ w.ringing ++ w.announcing

/-- The alarm is pending or under way. -/
def Known (w : Works) (alarm : Alarm) : Prop :=
  ∃ a ∈ w.alarms, a.number = alarm.number

/-- What every step keeps. -/
structure Sound (w : Works) : Prop where
  /-- This many alarms are pending or may yet be set by what is under way. -/
  load : w.alarms.length + w.started ≤ 1 + w.crowded
  rest : w.clockwork.running = false → w.clockwork.pending.length ≤ w.crowded
  remembered : ∀ alarm, w.clockwork.remembered = some alarm → w.clockwork.running = true ∧ w.Known alarm
  forgotten : w.clockwork.running = true → w.clockwork.remembered = none → 0 < w.started

section

variable {w w' : Works}

theorem mem_alarms {a : Alarm} :
    a ∈ w.alarms ↔ a ∈ w.clockwork.pending ∨ a ∈ w.ringing ∨ a ∈ w.announcing := by
  rw [alarms, List.mem_append, List.mem_append, or_assoc]

theorem length_alarms :
    w.alarms.length = w.clockwork.pending.length + w.ringing.length + w.announcing.length := by
  rw [alarms, List.length_append, List.length_append]

theorem sound_init : Sound {} where
  load := Nat.zero_le _
  rest _ := Nat.le_refl _
  remembered _ h := by cases h
  forgotten h := by cases h

/-- A stop leaves only alarms that are too many. If the alarm that is remembered is not pending any more, it is
under way or a start is, which takes the place of one alarm that may be pending. -/
theorem Sound.length_stop_le (h : w.Sound) : w.clockwork.stop.pending.length ≤ w.crowded := by
  have hload := h.load
  rw [length_alarms] at hload
  have hle := Clockwork.length_stop_le w.clockwork
  by_cases hrunning : w.clockwork.running = true
  · cases hremembered : w.clockwork.remembered with
    | none =>
      have hstarted := h.forgotten hrunning hremembered
      omega
    | some alarm =>
      obtain ⟨a, ha, hnumber⟩ := (h.remembered alarm hremembered).2
      obtain hpending | hringing | hannouncing := mem_alarms.1 ha
      · have hlt := Clockwork.length_stop_lt hremembered hpending hnumber
        omega
      · have hpos := List.length_pos_of_mem hringing
        omega
      · have hpos := List.length_pos_of_mem hannouncing
        omega
  · exact Nat.le_trans hle (h.rest (Bool.not_eq_true _ ▸ hrunning))

theorem Sound.stop (h : w.Sound) (stopped : Nat) :
    Sound { w with clockwork := w.clockwork.stop, stopped } where
  load := by
    have hload := h.load
    have hle := Clockwork.length_stop_le w.clockwork
    rw [length_alarms] at hload ⊢
    dsimp only
    omega
  rest _ := h.length_stop_le
  remembered alarm halarm := by
    rw [Clockwork.remembered_stop] at halarm
    cases halarm
  forgotten hrunning := by
    rw [Clockwork.running_stop] at hrunning
    cases hrunning

theorem Sound.run (h : w.Sound) :
    Sound { w with
      clockwork := w.clockwork.run, stopped := w.stopped - 1, started := w.started + 1
      crowded := if w.Crowded then w.crowded + 1 else w.crowded } where
  load := by
    have hload := h.load
    by_cases hcrowded : w.Crowded
    · rw [if_pos hcrowded]
      show w.alarms.length + (w.started + 1) ≤ 1 + (w.crowded + 1)
      omega
    · rw [if_neg hcrowded]
      unfold Crowded at hcrowded
      push Not at hcrowded
      obtain ⟨hrunning, hstarted, hringing, hannouncing⟩ := hcrowded
      have hrest := h.rest (Bool.not_eq_true _ ▸ hrunning)
      show w.alarms.length + (w.started + 1) ≤ 1 + w.crowded
      rw [length_alarms, hringing, hannouncing, List.length_nil]
      omega
  rest hrunning := by cases hrunning
  remembered alarm halarm := ⟨rfl, (h.remembered alarm halarm).2⟩
  forgotten _ _ := Nat.succ_pos _

/-- Who sets an alarm is under way no longer. -/
theorem Sound.set (h : w.Sound) (delay : Double) (hclockwork : w'.clockwork = w.clockwork.set delay)
    (hringing : w'.ringing = w.ringing) (hcrowded : w'.crowded = w.crowded)
    (hdone : w'.announcing.length + w'.started + 1 = w.announcing.length + w.started) : w'.Sound := by
  have hload := h.load
  rw [length_alarms] at hload
  by_cases hrunning : w.clockwork.running = true
  · rw [Clockwork.set, if_pos hrunning] at hclockwork
    refine ⟨?_, ?_, ?_, ?_⟩
    · rw [length_alarms, hclockwork, hringing, hcrowded, List.length_append, List.length_singleton]
      omega
    · intro hrest
      rw [hclockwork] at hrest
      exact absurd hrunning (Bool.not_eq_true _ ▸ hrest)
    · intro alarm halarm
      rw [hclockwork] at halarm
      cases halarm
      refine ⟨by rw [hclockwork]; exact hrunning, _, mem_alarms.2 (.inl ?_), rfl⟩
      rw [hclockwork]
      exact List.mem_append_right _ (List.mem_singleton_self _)
    · intro _ hforgotten
      rw [hclockwork] at hforgotten
      cases hforgotten
  · rw [Clockwork.set, if_neg hrunning] at hclockwork
    refine ⟨?_, ?_, ?_, ?_⟩
    · rw [length_alarms, hclockwork, hringing, hcrowded]
      omega
    · rw [hclockwork, hcrowded]
      exact h.rest
    · intro alarm halarm
      rw [hclockwork] at halarm
      exact absurd (h.remembered alarm halarm).1 hrunning
    · intro hrunning'
      rw [hclockwork] at hrunning'
      exact absurd hrunning' hrunning

theorem Sound.goOff (h : w.Sound) {alarm : Alarm} (halarm : alarm ∈ w.clockwork.pending) :
    Sound { w with clockwork := w.clockwork.goOff alarm, ringing := w.ringing ++ [alarm] } where
  load := by
    have hload := h.load
    have hlt : (w.clockwork.goOff alarm).pending.length < w.clockwork.pending.length := by
      rw [Clockwork.goOff, List.length_filter_lt_length_iff_exists]
      exact ⟨alarm, halarm, by simp⟩
    rw [length_alarms] at hload ⊢
    rw [List.length_append, List.length_singleton]
    dsimp only
    omega
  rest hrunning := Nat.le_trans (List.length_filter_le _ _) (h.rest hrunning)
  remembered a ha := by
    obtain ⟨hrunning, b, hb, hnumber⟩ := h.remembered a ha
    refine ⟨hrunning, ?_⟩
    by_cases hsame : b.number = alarm.number
    · exact ⟨alarm, mem_alarms.2 (by simp), hsame.symm.trans hnumber⟩
    · refine ⟨b, mem_alarms.2 ?_, hnumber⟩
      obtain hpending | hringing | hannouncing := mem_alarms.1 hb
      · exact .inl (List.mem_filter.2 ⟨hpending, by simpa using hsame⟩)
      · exact .inr (.inl (List.mem_append_left _ hringing))
      · exact .inr (.inr hannouncing)
  forgotten := h.forgotten

theorem Sound.look (h : w.Sound) {alarm : Alarm} (halarm : alarm ∈ w.ringing) :
    Sound { w with
      ringing := w.ringing.erase alarm
      announcing := if w.clockwork.running then w.announcing ++ [alarm] else w.announcing } := by
  have hload := h.load
  have hpos := List.length_pos_of_mem halarm
  rw [length_alarms] at hload
  by_cases hrunning : w.clockwork.running = true
  · rw [if_pos hrunning]
    refine ⟨?_, h.rest, ?_, h.forgotten⟩
    · rw [length_alarms, List.length_erase_of_mem halarm, List.length_append, List.length_singleton]
      dsimp only
      omega
    · intro a ha
      obtain ⟨-, b, hb, hnumber⟩ := h.remembered a ha
      refine ⟨hrunning, b, mem_alarms.2 ?_, hnumber⟩
      obtain hpending | hringing | hannouncing := mem_alarms.1 hb
      · exact .inl hpending
      · by_cases hsame : b = alarm
        · exact .inr (.inr (by simp [hsame]))
        · exact .inr (.inl ((List.mem_erase_of_ne hsame).2 hringing))
      · exact .inr (.inr (List.mem_append_left _ hannouncing))
  · rw [if_neg hrunning]
    refine ⟨?_, h.rest, ?_, h.forgotten⟩
    · rw [length_alarms, List.length_erase_of_mem halarm]
      dsimp only
      omega
    · intro a ha
      exact absurd (h.remembered a ha).1 hrunning

/-- **Every step keeps what is sound.** -/
theorem Sound.move (h : w.Sound) {m : Move} (hmove : w.move? m = some w') : w'.Sound := by
  cases m with
  | stop =>
    cases hmove
    exact h.stop w.stopped
  | start =>
    cases hmove
    exact h.stop (w.stopped + 1)
  | run =>
    obtain ⟨-, heq⟩ := Option.ite_none_right_eq_some.1 hmove
    cases heq
    exact h.run
  | finish delay =>
    obtain ⟨hstarted, heq⟩ := Option.ite_none_right_eq_some.1 hmove
    cases heq
    refine h.set delay rfl rfl rfl ?_
    dsimp only
    omega
  | goOff alarm =>
    obtain ⟨halarm, heq⟩ := Option.ite_none_right_eq_some.1 hmove
    cases heq
    exact h.goOff halarm
  | look alarm =>
    obtain ⟨halarm, heq⟩ := Option.ite_none_right_eq_some.1 hmove
    cases heq
    exact h.look halarm
  | again alarm delay =>
    obtain ⟨halarm, heq⟩ := Option.ite_none_right_eq_some.1 hmove
    cases heq
    refine h.set delay rfl rfl rfl ?_
    have hpos := List.length_pos_of_mem halarm
    rw [List.length_erase_of_mem halarm]
    dsimp only
    omega

/-- **Every run keeps what is sound.** -/
theorem sound_of_runs {trace : List Move} (run : Runs move? {} trace w) : w.Sound := by
  induction run with
  | start => exact sound_init
  | step _ hmove ih => exact ih.move hmove

/-- Once nothing is under way, a herald that runs remembers an alarm that is pending. -/
theorem Sound.pending_pos (h : w.Sound) (hquiet : w.Quiet) (hrunning : w.clockwork.running = true) :
    0 < w.clockwork.pending.length := by
  cases hremembered : w.clockwork.remembered with
  | none =>
    have hstarted := h.forgotten hrunning hremembered
    rw [hquiet.started] at hstarted
    cases hstarted
  | some alarm =>
    obtain ⟨a, ha, -⟩ := (h.remembered alarm hremembered).2
    rw [alarms, hquiet.ringing, hquiet.announcing, List.append_nil, List.append_nil] at ha
    exact List.length_pos_of_mem ha

/-- **At any time there is one alarm pending at most, and one more for every start that has made the herald run
among other steps.** Once nothing is under way, an alarm is pending if the herald runs, and if it does not run,
none is pending but those. So without such starts one alarm is pending exactly if the herald runs. -/
theorem pending_le {trace : List Move} (run : Runs move? {} trace w) :
    w.clockwork.pending.length ≤ 1 + w.crowded ∧
    (w.Quiet → w.clockwork.running = true → 0 < w.clockwork.pending.length) ∧
    (w.clockwork.running = false → w.clockwork.pending.length ≤ w.crowded) ∧
    (w.crowded = 0 → w.Quiet → (w.clockwork.pending.length = 1 ↔ w.clockwork.running = true)) := by
  have h := sound_of_runs run
  have hload := h.load
  rw [length_alarms] at hload
  refine ⟨by omega, h.pending_pos, h.rest, fun hcrowded hquiet => ⟨fun hone => ?_, fun hrunning => ?_⟩⟩
  · by_contra hrunning
    have hrest := h.rest (Bool.not_eq_true _ ▸ hrunning)
    omega
  · have hpos := h.pending_pos hquiet hrunning
    omega

end

/-- A start, and the hour after it. -/
def hourly : List Move :=
  let alarm : Alarm := ⟨0, .ofInt 1800⟩
  [.start, .run, .finish alarm.delay, .goOff alarm, .look alarm, .again alarm (.ofInt 3600)]

theorem pending_le_hourly :
    ∃ w, Runs move? {} hourly w ∧ w.clockwork.running = true ∧ w.clockwork.pending.length = 1 := by
  have hrun : Runs move? {} hourly
      { clockwork := ⟨true, some ⟨1, .ofInt 3600⟩, [⟨1, .ofInt 3600⟩], 2⟩ } :=
    runs_iff_foldlM.2 rfl
  exact ⟨_, hrun, rfl, ((pending_le hrun).2.2.2 rfl ⟨rfl, rfl, rfl, rfl⟩).2 rfl⟩

/-- An alarm goes off and finds the herald running. Then the herald is stopped and started again, and after that
the alarm sets the next one. -/
def overtaken : List Move :=
  let alarm : Alarm := ⟨0, .ofInt 1800⟩
  [.start, .run, .finish alarm.delay, .goOff alarm, .look alarm, .stop, .start, .run, .finish (.ofInt 1200),
    .again alarm (.ofInt 600)]

/-- Two alarms can be pending though nothing is under way, and a stop leaves one of them. -/
theorem two_pending_overtaken :
    ∃ w w', Runs move? {} overtaken w ∧ w.Quiet ∧ w.clockwork.running = true ∧ w.clockwork.pending.length = 2 ∧
      Runs move? {} (overtaken ++ [.stop]) w' ∧ w'.Quiet ∧ w'.clockwork.running = false ∧
      w'.clockwork.pending.length = 1 := by
  have hrun : Runs move? {} overtaken
      { clockwork := ⟨true, some ⟨2, .ofInt 600⟩, [⟨1, .ofInt 1200⟩, ⟨2, .ofInt 600⟩], 3⟩, crowded := 1 } :=
    runs_iff_foldlM.2 rfl
  exact ⟨_, _, hrun, ⟨rfl, rfl, rfl, rfl⟩, rfl, rfl, hrun.step rfl, ⟨rfl, rfl, rfl, rfl⟩, rfl, rfl⟩

end Works

end JournalHerald.Herald

import JournalHerald.Herald
import Mathlib.Data.List.Induction

/-!
# What the listeners are told

The herald is started, is stopped and handles events, in any order. It announces the greeting of every start, and
every event of the present that comes while it runs and has an announcement, as far as their messages can be
composed. Each listener is told just that. A listener may fail whenever it is told something, which makes no
difference to the others. Only if one of them has the herald stopped, that counts as a stop among the calls.

* `Call` is one of the calls, `due?` what there is to announce about it, `raisedBy` what there is in a whole run
  and `raised` how that follows from the calls;
* `tellAll_eq_map` and `wantsStop_tellAll` are about one thing that all listeners are told;
* `Told` is what a call does to the herald, `told_make` the call and `told_after` the run;
* `announcements_after` is the main result.
-/

namespace JournalHerald.Herald

/-! ### Listeners -/

namespace Listener

variable {α : Type}

/-- The listener takes things in or fails on them, and never has the herald stopped. -/
def NeverStops (l : Listener α) : Prop :=
  ∀ told, l.react told ≠ .stop

/-- The listener after it has been told several things more. -/
def hearAll (things : List α) (l : Listener α) : Listener α :=
  { l with told := l.told ++ things }

theorem hearAll_nil (l : Listener α) : l.hearAll [] = l := by
  rw [hearAll, List.append_nil]

theorem hearAll_append (earlier later : List α) (l : Listener α) :
    l.hearAll (earlier ++ later) = (l.hearAll earlier).hearAll later := by
  rw [hearAll, hearAll, hearAll, List.append_assoc]

end Listener

section

variable {α : Type} {listeners : List (Listener α)}

/-- Every listener is told, whether or not those before it fail. -/
theorem tellAll_eq_map (a : α) (listeners : List (Listener α)) :
    tellAll a listeners = listeners.map (Listener.hearAll [a]) := by
  induction listeners with
  | nil => rfl
  | cons l listeners ih =>
    rw [tellAll, List.map_cons, ih]
    by_cases hfail : (l.hear a).reaction = .fail
    · simp only [Listener.call, if_pos hfail]
      rfl
    · simp only [Listener.call, if_neg hfail]
      rfl

theorem neverStops_of_mem_map {things : List α} (h : ∀ l ∈ listeners, l.NeverStops) :
    ∀ l ∈ listeners.map (Listener.hearAll things), l.NeverStops := by
  intro l hl
  obtain ⟨l', hl', rfl⟩ := List.mem_map.1 hl
  exact h l' hl'

theorem wantsStop_tellAll (h : ∀ l ∈ listeners, l.NeverStops) (a : α) : wantsStop (tellAll a listeners) = false := by
  rw [tellAll_eq_map, wantsStop, List.any_eq_false]
  intro l hl hstop
  exact neverStops_of_mem_map h l hl _ (beq_iff_eq.1 hstop)

end

/-! ### Calls -/

/-- What is asked of the herald. The chronicle is as it is at that time. -/
inductive Call where
  | start (chronicle : Chronicle) (now : Timestamp)
  | stop
  | handle (chronicle : Chronicle) (event : Event)

/-- The herald after a call, and the notification that is handed back. -/
def Call.make (h : Herald) : Call → Herald × Option Notification
  | .start chronicle now => (h.start chronicle now, none)
  | .stop => (h.stop, none)
  | .handle chronicle event => h.handle chronicle event

/-- The herald after several calls. -/
def after (h : Herald) (calls : List Call) : Herald :=
  calls.foldl (fun h call => (call.make h).1) h

/-- The herald runs after a call if it is the last start that has been, not the last stop. -/
def runsAfter (running : Bool) : Call → Bool
  | .start _ _ => true
  | .stop => false
  | .handle _ _ => running

/-- The notification with a message, if that can be composed. -/
def composed? (settings : Settings) (chronicle : Chronicle) (header : Text) (event : Option Event)
    (filterOnCommander : Bool) (format : Text) (duration : Int) : Option Notification :=
  let request : Message.Request :=
    { event, filterOnCommander, textStyle := settings.textStyle, tokenStyle := settings.tokenStyle }
  (chronicle.compose request format).toOption.map fun parts => ⟨header, parts, duration⟩

/-- What there is to announce about a call to a herald that runs or does not. -/
def due? (settings : Settings) (running : Bool) : Call → Option Notification
  | .start chronicle _ => composed? settings chronicle greetingHeader none false greetingFormat greetingDuration
  | .stop => none
  | .handle chronicle event =>
    if event.historic = false ∧ running = true then
      (settings.announcements.find? fun a => a.kind == event.kind).bind fun a =>
        composed? settings chronicle (header event.kind) (some event) settings.filterOnCommander a.format
          a.displayDuration
    else none

/-- What there is to announce about several calls, in order. -/
def raised (settings : Settings) (running : Bool) : List Call → List Notification
  | [] => []
  | call :: calls => (due? settings running call).toList ++ raised settings (runsAfter running call) calls

/-- What there is to announce about several calls to a herald, in order, as it runs or does not at each of them. -/
def raisedBy (h : Herald) : List Call → List Notification
  | [] => []
  | call :: calls => (due? h.settings h.isRunning call).toList ++ raisedBy (call.make h).1 calls

/-! ### What a call does -/

/-- No listener has the herald stopped. -/
structure Undisturbed (h : Herald) : Prop where
  notification : ∀ l ∈ h.notificationListeners, l.NeverStops
  progress : ∀ l ∈ h.progressListeners, l.NeverStops

/-- The listeners have been told some notifications, and the settings are the same. If no listener has the herald
stopped, it runs now or does not. -/
structure Told (h : Herald) (notifications : List Notification) (running : Bool) (h' : Herald) : Prop where
  settings : h'.settings = h.settings
  listeners : h'.notificationListeners = h.notificationListeners.map (Listener.hearAll notifications)
  isRunning : h.Undisturbed → h'.isRunning = running
  undisturbed : h.Undisturbed → h'.Undisturbed

section Told

variable {h h₁ h₂ : Herald} {earlier later : List Notification} {running running' : Bool}

theorem told_self (h : Herald) : Told h [] h.isRunning h where
  settings := rfl
  listeners := by
    rw [List.map_congr_left fun l _ => Listener.hearAll_nil l, List.map_id']
  isRunning _ := rfl
  undisturbed hu := hu

theorem Told.trans (hearlier : Told h earlier running h₁) (hlater : Told h₁ later running' h₂) :
    Told h (earlier ++ later) running' h₂ where
  settings := hlater.settings.trans hearlier.settings
  listeners := by
    rw [hlater.listeners, hearlier.listeners, List.map_map]
    exact List.map_congr_left fun l _ => (Listener.hearAll_append earlier later l).symm
  isRunning hu := hlater.isRunning (hearlier.undisturbed hu)
  undisturbed hu := hlater.undisturbed (hearlier.undisturbed hu)

/-- What is told later to a herald that still runs or still does not. -/
theorem Told.trans_same (hearlier : Told h earlier running h₁) (hlater : Told h₁ later h₁.isRunning h₂) :
    Told h (earlier ++ later) running h₂ :=
  { hearlier.trans hlater with
    isRunning := fun hu => (hlater.isRunning (hearlier.undisturbed hu)).trans (hearlier.isRunning hu) }

theorem told_clockwork (h : Herald) (clockwork : Clockwork) : Told h [] clockwork.running { h with clockwork } where
  settings := rfl
  listeners := (told_self h).listeners
  isRunning _ := rfl
  undisturbed hu := ⟨hu.notification, hu.progress⟩

theorem told_setAlarm (h : Herald) (now : Timestamp) : Told h [] h.isRunning (h.setAlarm now) := by
  have hrunning : (h.clockwork.set now.secondsToNextHour).running = h.isRunning := by
    unfold Clockwork.set
    split <;> rfl
  exact hrunning ▸ told_clockwork h _

theorem settings_stopIf (wanted : Bool) (h : Herald) : (h.stopIf wanted).settings = h.settings := by
  cases wanted <;> rfl

theorem notificationListeners_stopIf (wanted : Bool) (h : Herald) :
    (h.stopIf wanted).notificationListeners = h.notificationListeners := by
  cases wanted <;> rfl

theorem progress_eq (hu : h.Undisturbed) (percent : Int) :
    h.progress percent = { h with progressListeners := tellAll percent h.progressListeners } := by
  simp only [progress, wantsStop_tellAll hu.progress percent, stopIf]
  rfl

theorem tell_eq (hu : h.Undisturbed) (n : Notification) :
    h.tell n = { h with notificationListeners := tellAll n h.notificationListeners } := by
  simp only [tell, wantsStop_tellAll hu.notification n, stopIf]
  rfl

/-- A percentage is nothing that the listeners for notifications are told. -/
theorem told_progress (h : Herald) (percent : Int) : Told h [] h.isRunning (h.progress percent) where
  settings := settings_stopIf _ _
  listeners := (notificationListeners_stopIf _ _).trans (told_self h).listeners
  isRunning hu := by
    rw [progress_eq hu]
    rfl
  undisturbed hu := by
    rw [progress_eq hu]
    exact ⟨hu.notification, tellAll_eq_map percent _ ▸ neverStops_of_mem_map hu.progress⟩

theorem told_tell (h : Herald) (n : Notification) : Told h [n] h.isRunning (h.tell n) where
  settings := settings_stopIf _ _
  listeners := (notificationListeners_stopIf _ _).trans (tellAll_eq_map n _)
  isRunning hu := by
    rw [tell_eq hu]
    rfl
  undisturbed hu := by
    rw [tell_eq hu]
    exact ⟨tellAll_eq_map n _ ▸ neverStops_of_mem_map hu.notification, hu.progress⟩

/-- The listeners are told a message that can be composed, and nothing else. -/
theorem told_notify (h : Herald) (chronicle : Chronicle) (header : Text) (event : Option Event)
    (filter : Bool) (format : Text) (duration : Int) :
    let n := composed? h.settings chronicle header event filter format duration
    (h.notify chronicle header event filter format duration).2 = n ∧
      Told h n.toList h.isRunning (h.notify chronicle header event filter format duration).1 := by
  simp only [notify, composed?]
  cases chronicle.compose _ format with
  | error failure => exact ⟨rfl, told_self h⟩
  | ok parts => exact ⟨rfl, told_tell h _⟩

theorem told_start (h : Herald) (chronicle : Chronicle) (now : Timestamp) :
    Told h (due? h.settings h.isRunning (.start chronicle now)).toList true (h.start chronicle now) := by
  have hrun : Told h [] true { h with clockwork := h.clockwork.stop.run } := told_clockwork h h.clockwork.stop.run
  have hprogress := hrun.trans_same (told_progress { h with clockwork := h.clockwork.stop.run } 100)
  have hgreet := hprogress.trans_same (told_notify _ chronicle greetingHeader none false
    greetingFormat greetingDuration).2
  have halarm := hgreet.trans_same (told_setAlarm _ now)
  rw [hprogress.settings, List.append_nil] at halarm
  exact halarm

/-- The replay of the past is told by percentages. -/
theorem told_replay (h : Herald) (filename : Option Text) : Told h [] h.isRunning (h.replay filename) := by
  have hplace : ∀ name, Told h [] h.isRunning { h with currentFile := name } :=
    fun _ => { told_self h with undisturbed := fun hu => ⟨hu.notification, hu.progress⟩ }
  unfold replay
  split
  · exact told_self h
  · next name =>
    split
    · exact told_self h
    · dsimp only
      split
      · exact (hplace name).trans_same (told_progress _ _)
      · exact hplace name

/-- An event is handed back as the notification that the listeners have been told. -/
theorem told_handle (h : Herald) (chronicle : Chronicle) (event : Event) :
    (h.handle chronicle event).2 = due? h.settings h.isRunning (.handle chronicle event) ∧
      Told h (due? h.settings h.isRunning (.handle chronicle event)).toList h.isRunning
        (h.handle chronicle event).1 := by
  by_cases hhistoric : event.historic = true
  · have hdue : due? h.settings h.isRunning (.handle chronicle event) = none := by simp [due?, hhistoric]
    rw [handle, if_pos hhistoric, hdue]
    exact ⟨rfl, told_replay h _⟩
  rw [handle, if_neg hhistoric]
  by_cases hrunning : h.isRunning = true
  · rw [Bool.not_eq_true] at hhistoric
    rw [if_pos hrunning, due?, if_pos ⟨hhistoric, hrunning⟩, Settings.announcementFor?]
    cases h.settings.announcements.find? _ with
    | none => exact ⟨rfl, told_self h⟩
    | some a => exact told_notify h _ _ _ _ _ _
  · have hdue : due? h.settings h.isRunning (.handle chronicle event) = none := by simp [due?, hrunning]
    rw [if_neg hrunning, hdue]
    exact ⟨rfl, told_self h⟩

theorem Clockwork.running_stop (c : Clockwork) : c.stop.running = false := by
  unfold stop cancel
  split <;> rfl

/-- **A call has the listeners told what there is to announce about it.** -/
theorem told_make (h : Herald) (call : Call) :
    Told h (due? h.settings h.isRunning call).toList (runsAfter h.isRunning call) (call.make h).1 := by
  cases call with
  | start chronicle now => exact told_start h chronicle now
  | stop =>
    have htold := told_clockwork h h.clockwork.stop
    rw [Clockwork.running_stop] at htold
    exact htold
  | handle chronicle event => exact (told_handle h chronicle event).2

/-! ### Runs -/

/-- The herald runs after several calls. -/
def runsAfterAll (running : Bool) (calls : List Call) : Bool :=
  calls.foldl runsAfter running

/-- **Several calls have the listeners told what there is to announce about them.** -/
theorem told_after (h : Herald) (calls : List Call) :
    ∃ running, Told h (h.raisedBy calls) running (h.after calls) := by
  induction calls generalizing h with
  | nil => exact ⟨_, told_self h⟩
  | cons call calls ih =>
    obtain ⟨running, htold⟩ := ih (call.make h).1
    exact ⟨running, (told_make h call).trans htold⟩

/-- As long as no listener has the herald stopped, whether it runs follows from the calls. -/
theorem isRunning_after (hu : h.Undisturbed) (calls : List Call) :
    (h.after calls).isRunning = runsAfterAll h.isRunning calls := by
  induction calls generalizing h with
  | nil => rfl
  | cons call calls ih =>
    have hcall := told_make h call
    have hcalls := ih (hcall.undisturbed hu)
    rw [hcall.isRunning hu] at hcalls
    exact hcalls

/-- As long as no listener has the herald stopped, what there is to announce follows from the calls. -/
theorem raisedBy_eq_raised (hu : h.Undisturbed) (calls : List Call) :
    h.raisedBy calls = raised h.settings h.isRunning calls := by
  induction calls generalizing h with
  | nil => rfl
  | cons call calls ih =>
    have hcall := told_make h call
    rw [raisedBy, raised, ih (hcall.undisturbed hu), hcall.settings, hcall.isRunning hu]

end Told

/-- An event of the present about which there is nothing to announce leaves the herald as it was. -/
theorem handle_eq_self {h : Herald} {chronicle : Chronicle} {event : Event} (hlive : event.historic = false)
    (hdue : due? h.settings h.isRunning (.handle chronicle event) = none) : (h.handle chronicle event).1 = h := by
  rw [handle, if_neg (by simp [hlive])]
  by_cases hrunning : h.isRunning = true
  · rw [due?, if_pos ⟨hlive, hrunning⟩] at hdue
    rw [if_pos hrunning, Settings.announcementFor?]
    cases hfound : h.settings.announcements.find? fun a => a.kind == event.kind with
    | none => rfl
    | some a =>
      rw [hfound, Option.bind_some, composed?, Option.map_eq_none_iff] at hdue
      show (h.notify chronicle _ _ _ _ _).1 = h
      rw [notify]
      split
      · next hparts => rw [hparts] at hdue; cases hdue
      · rfl
  · rw [if_neg hrunning]

/-- **Every listener is told what there is to announce, in order, whatever it does about that and whoever else is
told.** That follows from the calls and the settings alone, unless a listener has the herald stopped. What is
handed back for an event is what the listeners are told. An event of the past is nothing to announce, and one of
the present that is nothing to announce, be it that its message cannot be composed, might as well not have come. -/
theorem announcements_after (h : Herald) (calls : List Call) :
    (h.after calls).notificationListeners =
      h.notificationListeners.map (fun l => { l with told := l.told ++ h.raisedBy calls }) ∧
    (h.Undisturbed → h.raisedBy calls = raised h.settings h.isRunning calls) ∧
    ∀ earlier chronicle event later, calls = earlier ++ .handle chronicle event :: later →
      let due := due? h.settings (h.after earlier).isRunning (.handle chronicle event)
      (h.Undisturbed → (h.after earlier).isRunning = runsAfterAll h.isRunning earlier) ∧
      ((h.after earlier).handle chronicle event).2 = due ∧
      (event.historic = true → due = none) ∧
      (event.historic = false → due = none → h.after calls = h.after (earlier ++ later)) := by
  obtain ⟨_, htold⟩ := told_after h calls
  refine ⟨htold.listeners, fun hu => raisedBy_eq_raised hu calls, ?_⟩
  rintro earlier chronicle event later rfl
  obtain ⟨_, hearlier⟩ := told_after h earlier
  have hhandle := (told_handle (h.after earlier) chronicle event).1
  rw [hearlier.settings] at hhandle
  refine ⟨fun hu => isRunning_after hu earlier, hhandle, fun hhistoric => by simp [due?, hhistoric], ?_⟩
  intro hlive hdue
  have hsame : ((h.after earlier).handle chronicle event).1 = h.after earlier := by
    apply handle_eq_self hlive
    rw [hearlier.settings]
    exact hdue
  rw [after, List.foldl_append, List.foldl_cons, after, List.foldl_append]
  exact congrArg (List.foldl _ · later) hsame

/-- A herald with a listener that fails every time and another one that fails every other time. -/
def unreliable : Herald where
  settings :=
    { allowFeedback := false, filterOnCommander := false, displayDuration := 10
      textStyle := .default, tokenStyle := .information
      announcements := [⟨"Died", "once", 0, none⟩, ⟨"Died", "twice", 0, none⟩, ⟨"Bounty", "\x7bship\x7d", 3, none⟩] }
  notificationListeners :=
    [.always .fail, { react := fun told => if told.length % 2 = 0 then .accept else .fail }]
  progressListeners := [.always .fail]

/-- Two starts and a stop among events, some of which cannot be announced: no message can be composed while the
name of the commander is a number. -/
def eventful : List Call :=
  let nameless : Chronicle := { commander := { state := { name := .int 5 } } }
  let event (kind : Text) (historic : Bool) : Event := ⟨[("event", .text kind)], historic, none⟩
  [.start .empty (.ofUnix 0), .handle nameless (event "Died" false), .handle .empty (event "Died" true),
    .handle .empty (event "Bounty" false), .handle .empty (event "Music" false), .stop,
    .handle .empty (event "Died" false), .start nameless (.ofUnix 0), .handle .empty (event "Died" false)]

theorem announcements_after_eventful :
    (unreliable.after eventful).notificationListeners.map (fun l => l.told.map Notification.header) =
      List.replicate 2 (["SIOUX Online", "Bounty", "Died"] : List Text) := by
  have hu : unreliable.Undisturbed := by
    constructor
    · intro l hl told
      simp only [unreliable, List.mem_cons, List.not_mem_nil, or_false] at hl
      obtain rfl | rfl := hl
      · simp [Listener.always]
      · dsimp only
        split <;> simp
    · intro l hl told
      simp only [unreliable, List.mem_singleton] at hl
      simp [hl, Listener.always]
  have hraised : (raised unreliable.settings unreliable.isRunning eventful).map Notification.header =
      (["SIOUX Online", "Bounty", "Died"] : List Text) := by
    decide +kernel
  have htold : ∀ ns : List Notification,
      (unreliable.notificationListeners.map fun l => { l with told := l.told ++ ns }).map
        (fun l => l.told.map Notification.header) = List.replicate 2 (ns.map Notification.header) := by
    intro ns
    rfl
  obtain ⟨hlisteners, hcalls, -⟩ := announcements_after unreliable eventful
  rw [hlisteners, hcalls hu, htold, hraised]

end JournalHerald.Herald

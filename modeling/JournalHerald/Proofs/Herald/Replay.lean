import JournalHerald.Proofs.Herald.Announcements
import JournalHerald.Proofs.Journal.Ids
import JournalHerald.Proofs.Number.Quotient
import Mathlib.Data.Rat.Floor

/-!
# The progress of a replay

Before the herald is started, the entries of the past are replayed file by file. The listeners for progress are
told how far that is at the first entry of each file: the number of files in front of it in percent of all files,
rounded down. The start tells them that all is done, and nothing after it tells them anything. The percentage is
the whole part of a quotient in double precision, which is as good as the exact quotient for as many files as there
can be.

An entry names its file by its id alone, and the herald knows the files by the last steps of their paths. That
fits together because both cut a path in the same way and the last dot of an id ends the name of the file. Only a
file whose name is empty, because its path ends with a slash, cannot be told from no file at all.

* `Stretch` is what a replay has of one file, `replayed` are the calls for it, `toldPlaces` are the places of the
  files that are told;
* `Heard` is what a call tells the listeners for progress, `Reached` what a part of the replay does;
* `percentage` is the exact percentage, and `percentAt?_eq_percentage` says that it is the one that is told;
* `progress_of_replay` is the main result.
-/

namespace JournalHerald.Herald

open Journal (baseName entryId idField sourceOf)

/-! ### What the listeners for progress are told -/

/-- The listeners for progress have been told some percentages, and the files of the replay are the same. -/
structure Heard (h : Herald) (percentages : List Int) (h' : Herald) : Prop where
  fileNames : h'.fileNames = h.fileNames
  listeners : h'.progressListeners = h.progressListeners.map (Listener.hearAll percentages)

section Heard

variable {h h₁ h₂ : Herald} {earlier later : List Int} (chronicle : Chronicle) (now : Timestamp)

theorem heard_self (h : Herald) : Heard h [] h where
  fileNames := rfl
  listeners := by
    rw [List.map_congr_left fun l _ => Listener.hearAll_nil l, List.map_id']

theorem Heard.trans (hearlier : Heard h earlier h₁) (hlater : Heard h₁ later h₂) : Heard h (earlier ++ later) h₂ where
  fileNames := hlater.fileNames.trans hearlier.fileNames
  listeners := by
    rw [hlater.listeners, hearlier.listeners, List.map_map]
    exact List.map_congr_left fun l _ => (Listener.hearAll_append earlier later l).symm

theorem heard_stopIf (wanted : Bool) (h : Herald) : Heard h [] (h.stopIf wanted) := by
  cases wanted with
  | false => exact heard_self h
  | true => exact ⟨rfl, (heard_self h).listeners⟩

theorem heard_progress (percent : Int) (h : Herald) : Heard h [percent] (h.progress percent) := by
  have htold : Heard h [percent] { h with progressListeners := tellAll percent h.progressListeners } :=
    ⟨rfl, tellAll_eq_map percent _⟩
  exact htold.trans (heard_stopIf _ _)

/-- A notification is nothing that the listeners for progress are told. -/
theorem heard_notify (header : Text) (event : Option Event) (filter : Bool) (format : Text) (duration : Int) :
    Heard h [] (h.notify chronicle header event filter format duration).1 := by
  simp only [notify]
  cases chronicle.compose _ format with
  | error failure => exact heard_self h
  | ok parts =>
    have htold : ∀ listeners, Heard h [] { h with notificationListeners := listeners } :=
      fun _ => ⟨rfl, (heard_self h).listeners⟩
    exact (htold _).trans (heard_stopIf _ _)

theorem heard_clockwork (h : Herald) (clockwork : Clockwork) : Heard h [] { h with clockwork } :=
  ⟨rfl, (heard_self h).listeners⟩

/-- A start tells that all is done. -/
theorem heard_start (h : Herald) : Heard h [100] (h.start chronicle now) := by
  have hrun := heard_clockwork h h.clockwork.stop.run
  have hgreet := (hrun.trans (heard_progress 100 _)).trans (heard_notify chronicle greetingHeader none false
    greetingFormat greetingDuration)
  exact hgreet.trans (heard_clockwork _ _)

theorem heard_handle_of_live {event : Event} (hlive : event.historic = false) :
    Heard h [] (h.handle chronicle event).1 := by
  rw [handle, if_neg (by simp [hlive])]
  split
  · split
    · exact heard_notify chronicle _ _ _ _ _
    · exact heard_self h
  · exact heard_self h

end Heard

/-- The call tells the listeners for progress nothing: it is neither a start nor about the past. -/
def Call.IsQuiet : Call → Prop
  | .start _ _ => False
  | .stop => True
  | .handle _ event => event.historic = false

instance : DecidablePred Call.IsQuiet
  | .start _ _ => inferInstanceAs (Decidable False)
  | .stop => inferInstanceAs (Decidable True)
  | .handle _ event => inferInstanceAs (Decidable (event.historic = false))

theorem heard_make {h : Herald} {call : Call} (hquiet : call.IsQuiet) : Heard h [] (call.make h).1 := by
  cases call with
  | start chronicle now => cases hquiet
  | stop => exact heard_clockwork h _
  | handle chronicle event => exact heard_handle_of_live chronicle hquiet

theorem heard_after {h : Herald} {calls : List Call} (hquiet : ∀ call ∈ calls, call.IsQuiet) :
    Heard h [] (h.after calls) := by
  induction calls generalizing h with
  | nil => exact heard_self h
  | cons call calls ih =>
    obtain ⟨hcall, hcalls⟩ := List.forall_mem_cons.1 hquiet
    exact (heard_make hcall).trans (ih hcalls)

theorem after_append (h : Herald) (calls later : List Call) :
    h.after (calls ++ later) = (h.after calls).after later :=
  List.foldl_append

/-! ### Replays -/

/-- An entry of the past, with the chronicle as it is when the entry is handled. -/
structure PastEntry where
  chronicle : Chronicle
  /-- The number of its line in the file. -/
  line : Nat
  fields : Fields

/-- What a replay has of one file. -/
structure Stretch where
  path : Text
  entries : List PastEntry

/-- The event of an entry that has been read from a file with a path. -/
def PastEntry.event (path : Text) (entry : PastEntry) : Event :=
  let fields := Fields.set entry.fields idField (.text (entryId path entry.line))
  .ofEntry fields true (some (sourceOf fields))

namespace Stretch

/-- The name that the herald knows the file by. -/
def fileName (s : Stretch) : Text :=
  baseName s.path

/-- The replay of the file, entry by entry. -/
def calls (s : Stretch) : List Call :=
  s.entries.map fun entry => .handle entry.chronicle (entry.event s.path)

/-- The file is told: it has an entry, and a name. -/
def IsTold (s : Stretch) : Prop :=
  s.entries ≠ [] ∧ s.fileName ≠ []

instance : DecidablePred IsTold :=
  fun _ => inferInstanceAs (Decidable (_ ∧ _))

end Stretch

/-- The replay of several files. -/
def replayed (stretches : List Stretch) : List Call :=
  stretches.flatMap Stretch.calls

/-- The places of the files that are told, counted from zero. -/
def toldPlaces (stretches : List Stretch) : List Nat :=
  (List.range stretches.length).filter fun i => ∃ s ∈ stretches[i]?, s.IsTold

/-- How much has been done when the file at a place is reached: the files in front of it in percent of all files,
rounded down. -/
def percentage (place count : Nat) : Int :=
  ⌊(100 * place / count : ℚ)⌋

section Percentages

variable {place place' count : Nat}

theorem percentage_eq (place count : Nat) : percentage place count = (place * 100 / count : Nat) := by
  have hfloor := Rat.floor_natCast_div_natCast (100 * place) count
  rw [Nat.mul_comm place]
  push_cast at hfloor ⊢
  exact hfloor

theorem percentage_mono (h : place ≤ place') : percentage place count ≤ percentage place' count := by
  rw [percentage_eq, percentage_eq]
  exact Int.ofNat_le.2 (Nat.div_le_div_right (Nat.mul_le_mul_right 100 h))

theorem percentage_bounds (h : place < count) : 0 ≤ percentage place count ∧ percentage place count ≤ 99 := by
  have hlt : place * 100 / count < 100 := by
    rw [Nat.div_lt_iff_lt_mul (Nat.zero_lt_of_lt h), Nat.mul_comm]
    exact Nat.mul_lt_mul_of_pos_left h (by decide)
  rw [percentage_eq]
  exact ⟨Int.natCast_nonneg _, Int.ofNat_le.2 (Nat.le_of_lt_succ hlt)⟩

theorem exists_percentAt? (h : place < count) : ∃ percent, percentAt? place count = some percent := by
  have hbelow : place * 100 < count * 2 ^ 7 := by omega
  obtain ⟨k, -, hwhole⟩ := Double.exists_toInt?_ofRatio hbelow (by decide)
  exact ⟨_, hwhole⟩

/-- The whole part of the quotient in double precision is the percentage. -/
theorem percentAt?_eq_percentage (h : place < count) (hcount : count < 2 ^ 47) :
    percentAt? place count = some (percentage place count) := by
  have hbelow : place * 100 < count * 2 ^ 7 := by omega
  rw [percentage_eq]
  exact Double.toInt?_ofRatio (Nat.zero_lt_of_lt h) hbelow hcount (by decide)

end Percentages

section Places

variable {stretches : List Stretch}

theorem lt_of_mem_toldPlaces {place : Nat} (h : place ∈ toldPlaces stretches) : place < stretches.length :=
  List.mem_range.1 (List.mem_filter.1 h).1

theorem pairwise_toldPlaces (stretches : List Stretch) : (toldPlaces stretches).Pairwise (· < ·) :=
  List.pairwise_lt_range.filter _

theorem toldPlaces_append_singleton (before : List Stretch) (s : Stretch) :
    toldPlaces (before ++ [s]) = toldPlaces before ++ if s.IsTold then [before.length] else [] := by
  have hbefore : ∀ i ∈ List.range before.length, decide (∃ t ∈ (before ++ [s])[i]?, t.IsTold) =
      decide (∃ t ∈ before[i]?, t.IsTold) := by
    intro i hi
    rw [List.getElem?_append_left (List.mem_range.1 hi)]
  rw [toldPlaces, List.length_append, List.length_singleton, List.range_succ, List.filter_append,
    List.filter_congr hbefore, toldPlaces]
  simp [List.filter_cons]

end Places

/-! ### The replay of a file -/

section Replay

variable {h : Herald} {s : Stretch} {name : Text} {place : Nat} {percent : Int}

theorem currentFile_progress (percent : Int) : (h.progress percent).currentFile = h.currentFile := by
  have hstop : ∀ (wanted : Bool) (h' : Herald), (h'.stopIf wanted).currentFile = h'.currentFile := by
    intro wanted h'
    cases wanted <;> rfl
  exact hstop _ _

theorem replay_eq_self (hsame : name = [] ∨ name = h.currentFile) : h.replay (some name) = h :=
  if_pos hsame

theorem replay_eq_progress (hname : name ≠ []) (hnew : name ≠ h.currentFile)
    (hplace : h.fileNames.findIdx? (· == name) = some place)
    (hpercent : percentAt? place h.fileNames.length = some percent) :
    h.replay (some name) = { h with currentFile := name }.progress percent := by
  have hne : ¬(name = [] ∨ name = h.currentFile) := not_or.2 ⟨hname, hnew⟩
  refine (if_neg hne).trans ?_
  simp only [hplace, Option.bind_some, hpercent]

/-- An entry is known to come from the file that it has been read from. -/
theorem filename_event (path : Text) (entry : PastEntry) : (entry.event path).filename = some (baseName path) := by
  show some (sourceOf _) = _
  rw [Journal.sourceOf_set, Journal.sourceName_entryId]

theorem handle_event (chronicle : Chronicle) (entry : PastEntry) (path : Text) :
    (h.handle chronicle (entry.event path)).1 = h.replay (some (baseName path)) := by
  rw [← filename_event path entry]
  rfl

theorem after_calls_cons (path : Text) (entry : PastEntry) (entries : List PastEntry) :
    h.after (Stretch.calls ⟨path, entry :: entries⟩) =
      (h.replay (some (baseName path))).after (Stretch.calls ⟨path, entries⟩) := by
  rw [← handle_event entry.chronicle entry path]
  rfl

/-- The entries of a file that is being replayed already, or has no name, tell nothing. -/
theorem after_calls_eq_self (hsame : s.fileName = [] ∨ s.fileName = h.currentFile) : h.after s.calls = h := by
  obtain ⟨path, entries⟩ := s
  induction entries with
  | nil => rfl
  | cons entry entries ih =>
    have hfirst : h.replay (some (baseName path)) = h := replay_eq_self hsame
    rw [after_calls_cons, hfirst]
    exact ih hsame

/-- A file is told at its first entry, after which it is the current one. -/
theorem after_calls_eq_progress (htold : s.IsTold) (hnew : s.fileName ≠ h.currentFile)
    (hplace : h.fileNames.findIdx? (· == s.fileName) = some place)
    (hpercent : percentAt? place h.fileNames.length = some percent) :
    h.after s.calls = { h with currentFile := s.fileName }.progress percent := by
  obtain ⟨path, entries⟩ := s
  cases entries with
  | nil => exact absurd rfl htold.1
  | cons entry entries =>
    have hfirst : h.replay (some (baseName path)) = { h with currentFile := baseName path }.progress percent :=
      replay_eq_progress htold.2 hnew hplace hpercent
    rw [after_calls_cons, hfirst]
    apply after_calls_eq_self
    rw [currentFile_progress]
    exact .inr rfl

/-- A file that is not told makes no difference. -/
theorem after_calls_of_not_isTold (htold : ¬s.IsTold) : h.after s.calls = h := by
  obtain ⟨path, entries⟩ := s
  cases entries with
  | nil => rfl
  | cons entry entries =>
    apply after_calls_eq_self
    by_contra hname
    exact htold ⟨List.cons_ne_nil _ _, (not_or.1 hname).1⟩

end Replay

/-! ### Runs -/

/-- The first files have been replayed: the percentages of those that are told have been told, and the current
file is one of them, unless there is none yet. -/
structure Reached (h : Herald) (stretches before : List Stretch) (h' : Herald) : Prop where
  heard : Heard h ((toldPlaces before).filterMap (percentAt? · stretches.length)) h'
  current : h'.currentFile = [] ∨ h'.currentFile ∈ before.map Stretch.fileName

theorem findIdx?_of_nodup {before after : List Stretch} {s : Stretch}
    (hdistinct : ((before ++ s :: after).map Stretch.fileName).Nodup) :
    ((before ++ s :: after).map Stretch.fileName).findIdx? (· == s.fileName) = some before.length := by
  rw [List.map_append, List.map_cons] at hdistinct ⊢
  have hnone : (before.map Stretch.fileName).findIdx? (· == s.fileName) = none := by
    rw [List.findIdx?_eq_none_iff]
    intro name hname
    exact beq_false_of_ne ((List.nodup_append.1 hdistinct).2.2 name hname _ List.mem_cons_self)
  rw [List.findIdx?_append, hnone]
  simp [List.findIdx?_cons]

/-- **The replay tells the percentages of the files one after the other.** -/
theorem reached_after {h : Herald} {stretches before after : List Stretch}
    (hdistinct : (stretches.map Stretch.fileName).Nodup) (hnames : h.fileNames = stretches.map Stretch.fileName)
    (hcurrent : h.currentFile = []) (hsplit : stretches = before ++ after) :
    Reached h stretches before (h.after (replayed before)) := by
  induction before using List.reverseRecOn generalizing after with
  | nil => exact ⟨heard_self h, .inl hcurrent⟩
  | append_singleton before s ih =>
    have hsplit' : stretches = before ++ s :: after := by
      rw [hsplit, List.append_assoc]
      rfl
    obtain ⟨hheard, hreached⟩ := ih hsplit'
    have hafter : h.after (replayed (before ++ [s])) = (h.after (replayed before)).after s.calls := by
      rw [replayed, List.flatMap_append, List.flatMap_singleton, after_append]
      rfl
    rw [hafter]
    by_cases htold : s.IsTold
    · rw [hsplit'] at hdistinct
      have hplace : (h.after (replayed before)).fileNames.findIdx? (· == s.fileName) = some before.length := by
        rw [hheard.fileNames, hnames, hsplit']
        exact findIdx?_of_nodup hdistinct
      have hcount : (h.after (replayed before)).fileNames.length = stretches.length := by
        rw [hheard.fileNames, hnames, List.length_map]
      -- the current file is an earlier one, if there is one
      have hnew : s.fileName ≠ (h.after (replayed before)).currentFile := by
        rw [List.map_append, List.map_cons] at hdistinct
        rintro hsame
        obtain hnone | hmem := hreached
        · exact htold.2 (hsame.trans hnone)
        · exact (List.nodup_append.1 hdistinct).2.2 _ hmem _ List.mem_cons_self hsame.symm
      obtain ⟨percent, hpercent⟩ : ∃ percent, percentAt? before.length stretches.length = some percent :=
        exists_percentAt? (by simp [hsplit'])
      have hlast : [before.length].filterMap (percentAt? · stretches.length) = [percent] := by
        simp [hpercent]
      rw [after_calls_eq_progress htold hnew hplace (hcount ▸ hpercent)]
      refine ⟨?_, .inr ?_⟩
      · rw [toldPlaces_append_singleton, if_pos htold, List.filterMap_append, hlast]
        have hplaced : ∀ h' : Herald, Heard h' [] { h' with currentFile := s.fileName } :=
          fun h' => ⟨rfl, (heard_self h').listeners⟩
        exact hheard.trans ((hplaced _).trans (heard_progress _ _))
      · rw [currentFile_progress, List.map_append]
        exact List.mem_append_right _ (List.mem_singleton.2 rfl)
    · rw [after_calls_of_not_isTold htold]
      refine ⟨?_, hreached.imp_right fun hmem => ?_⟩
      · rw [toldPlaces_append_singleton, if_neg htold, List.append_nil]
        exact hheard
      · rw [List.map_append]
        exact List.mem_append_left _ hmem

/-! ### Main statement -/

/-- **The listeners for progress are told how far a replay is, file by file in order, then that all is done, and
nothing else.** Each file with an entry and a name is told once, as the files in front of it in percent of all
files, without the fractional part of the quotient. For as many files as there can be that is the percentage
rounded down, although the quotient is rounded before its fractional part is dropped. These percentages never go
down, and none of them is 100. -/
theorem progress_of_replay (h : Herald) {stretches : List Stretch}
    (hdistinct : (stretches.map fun s => baseName s.path).Nodup) (chronicle : Chronicle) (now : Timestamp)
    {later : List Call} (hlater : ∀ call ∈ later, call.IsQuiet) :
    let told := (toldPlaces stretches).filterMap (percentAt? · stretches.length)
    let percentages := (toldPlaces stretches).map (percentage · stretches.length)
    let h' := (h.setFiles (stretches.map Stretch.path)).after (replayed stretches ++ .start chronicle now :: later)
    h'.progressListeners = h.progressListeners.map (fun l => { l with told := l.told ++ (told ++ [100]) }) ∧
    told.length = (toldPlaces stretches).length ∧
    (stretches.length < 2 ^ 47 → told = percentages) ∧
    (toldPlaces stretches).Pairwise (· < ·) ∧
    percentages.Pairwise (· ≤ ·) ∧
    (∀ percent ∈ percentages, 0 ≤ percent ∧ percent ≤ 99) := by
  refine ⟨?_, ?_, fun hcount => ?_, pairwise_toldPlaces stretches, ?_, ?_⟩
  · have hnames : (h.setFiles (stretches.map Stretch.path)).fileNames = stretches.map Stretch.fileName :=
      List.map_map
    have hreplay := (reached_after hdistinct hnames rfl (List.append_nil stretches).symm).heard
    have hall := (hreplay.trans (heard_start chronicle now _)).trans (heard_after hlater)
    rw [List.append_nil] at hall
    rw [after_append]
    exact hall.listeners
  · rw [List.filterMap_length_eq_length]
    intro place hplace
    exact Option.isSome_iff_exists.2 (exists_percentAt? (lt_of_mem_toldPlaces hplace))
  · rw [List.filterMap_eq_map_iff_forall_eq_some]
    exact fun place hplace => percentAt?_eq_percentage (lt_of_mem_toldPlaces hplace) hcount
  · exact List.pairwise_map.2 ((pairwise_toldPlaces stretches).imp fun hlt => percentage_mono hlt.le)
  · intro percent hpercent
    obtain ⟨place, hplace, rfl⟩ := List.mem_map.1 hpercent
    exact percentage_bounds (lt_of_mem_toldPlaces hplace)

/-- A herald with a listener for progress that fails every time. -/
def observed : Herald where
  settings :=
    { allowFeedback := false, filterOnCommander := false, displayDuration := 10
      textStyle := .default, tokenStyle := .information, announcements := [] }
  progressListeners := [.always .fail]

/-- An entry in a line of a file. -/
def music (line : Nat) : PastEntry :=
  ⟨.empty, line, [("event", .text "Music")]⟩

/-- Three files in different folders, the second one without an entry. -/
def threeFiles : List Stretch :=
  [⟨"C:\\journals\\Journal.01.log", [music 1, music 2]⟩, ⟨"/journals/Journal.02.log", []⟩,
    ⟨"Journal.3.01.log", [music 1000000]⟩]

theorem progress_of_replay_threeFiles :
    let calls := replayed threeFiles ++ [.start .empty (.ofUnix 0), .handle .empty ⟨[], false, none⟩, .stop]
    ((observed.setFiles (threeFiles.map Stretch.path)).after calls).progressListeners.map Listener.told =
      [[0, 66, 100]] := by
  have hdistinct : (threeFiles.map fun s => baseName s.path).Nodup := by decide +kernel
  have hlater : ∀ call ∈ ([.handle .empty ⟨[], false, none⟩, .stop] : List Call), call.IsQuiet := by decide
  have hpercentages : (toldPlaces threeFiles).map (percentage · threeFiles.length) = [0, 66] := by
    decide +kernel
  obtain ⟨hlisteners, -, htold, -⟩ := progress_of_replay observed hdistinct .empty (.ofUnix 0) hlater
  intro calls
  rw [hlisteners, htold (by decide), hpercentages]
  rfl

/-- A file whose name ends with a slash of the other kind, which is taken for the end of a folder. -/
def slashed : List Stretch :=
  [⟨"/journals/Journal.\\", [music 1]⟩]

/-- A file with an entry is not told if its name is taken to be empty. And with more files than there can be, a
quotient just below 69 is told as 69. -/
theorem progress_ne_slashed :
    let calls := replayed slashed ++ [.start .empty (.ofUnix 0)]
    ((slashed.map fun s => baseName s.path).Nodup ∧ (∀ s ∈ slashed, s.entries ≠ []) ∧
      ((observed.setFiles (slashed.map Stretch.path)).after calls).progressListeners.map Listener.told ≠
        [(List.range slashed.length).map (percentage · slashed.length) ++ [100]]) ∧
    percentAt? 97108866965177 (2 ^ 47 + 1) = some 69 ∧ percentage 97108866965177 (2 ^ 47 + 1) = 68 := by
  decide +kernel

end JournalHerald.Herald

import JournalHerald.Proofs.Journal.Delivery

/-!
# Keeping pace with the game

The program follows the newest file only. If the game begins two files while the program does not
look, the program never sees the first of them. But no line is lost if the game begins a new file
only while the program has the newest one open or has read it to the end, and if the program leaves
no file behind with something in it that it has not seen.

* `Scene.KeepsPace` are the moves that leave nothing behind, `PacedRun` the runs of these;
* `Covered` says that no file is left behind, and `HasRead` that all of a file has been read;
* `delivered_perm_of_pacedRun` is the main result, and two runs show that both conditions are needed.
-/

namespace JournalHerald.Journal

open Follower

/-! ### Moves that leave nothing behind -/

/-- All lines of a file have been read. -/
def HasRead (f : Follower) (file : LogFile) : Prop :=
  (Text.lines file.text).length ≤ f.linesOf file.name

/-- The game begins a new file only while the newest one is open in the program, or has been read by
it to the end. And the program gives up a file that is not the newest any more only at its end, if
nothing has been written into the file since the program saw that end. -/
def Scene.KeepsPace (s : Scene) : Move → Prop
  | .create _ _ => ∀ r ∈ s.reader, ∀ file ∈ s.files, newest? s.files = some file.name →
      (∃ o ∈ r.follower.opened, o.name = file.name) ∨ HasRead r.follower file
  | .step => ∀ r ∈ s.reader, ∀ o ∈ r.follower.opened, newest? s.files ≠ some o.name →
      (r.follower.step s.files).opened = none → o.atEnd = true ∧ hasMore s.files o = false
  | _ => True

instance (f : Follower) (file : LogFile) : Decidable (HasRead f file) :=
  inferInstanceAs (Decidable (_ ≤ _))

instance (s : Scene) : (m : Move) → Decidable (s.KeepsPace m)
  | .create _ _ => inferInstanceAs (Decidable (∀ r ∈ s.reader, ∀ file ∈ s.files,
      newest? s.files = some file.name →
        (∃ o ∈ r.follower.opened, o.name = file.name) ∨ HasRead r.follower file))
  | .step => inferInstanceAs (Decidable (∀ r ∈ s.reader, ∀ o ∈ r.follower.opened,
      newest? s.files ≠ some o.name → (r.follower.step s.files).opened = none →
        o.atEnd = true ∧ hasMore s.files o = false))
  | .write _ _ | .load | .restart | .take => isTrue trivial

/-- The state after a move that keeps pace and is possible. -/
def pacedMove? (s : Scene) (m : Move) : Option Scene :=
  if s.KeepsPace m then s.move? m else none

/-- A run in which the game and the program keep pace. -/
abbrev PacedRun : List Move → Scene → Prop :=
  Runs pacedMove? {}

theorem pacedMove?_eq_some_iff {s s' : Scene} {m : Move} :
    pacedMove? s m = some s' ↔ s.KeepsPace m ∧ s.move? m = some s' := by
  rw [pacedMove?, Option.ite_none_right_eq_some]

theorem PacedRun.run {moves : List Move} {s : Scene} (h : PacedRun moves s) : Run moves s :=
  h.imp fun _ _ _ hmove => (pacedMove?_eq_some_iff.1 hmove).2

/-- No file is left behind: each of them is the newest, or open, or has been read. -/
def Covered (files : List LogFile) (f : Follower) : Prop :=
  ∀ file ∈ files, newest? files = some file.name ∨ (∃ o ∈ f.opened, o.name = file.name) ∨
    HasRead f file

section Covered

variable {files : List LogFile} {f : Follower} {r : Reader} {file : LogFile}

/-- At the end of a file in which there is no more, all of it has been read. -/
theorem Keeps.hasRead (hfolder : Folder files) (h : Keeps files r) {o : Opened}
    (ho : r.follower.opened = some o) (hfile : file ∈ files) (hname : o.name = file.name)
    (hbuffer : o.buffer = []) (hmore : hasMore files o = false) : HasRead r.follower file := by
  obtain ⟨file', hfile', hreads⟩ := h.opened o ho
  cases hfolder.eq_of_name_eq hfile' hfile (hreads.name.trans hname)
  have hfind : find? files o.name = some file := hname ▸ hfolder.find?_of_mem hfile
  have hend : file.text.length ≤ o.position := by
    simpa [hasMore, hfind, hfolder.intact file hfile] using hmore
  exact hreads.length_le hbuffer hend

theorem Covered.step (hfolder : Folder files) (hkeeps : Keeps files r)
    (h : Covered files r.follower)
    (hpace : ∀ o ∈ r.follower.opened, newest? files ≠ some o.name →
      (r.follower.step files).opened = none → o.atEnd = true ∧ hasMore files o = false) :
    Covered files (r.follower.step files) := by
  have hstep := stepTo_step hfolder hkeeps.opened
  intro file hfile
  rcases h file hfile with hnewest | ⟨o, ho, hname⟩ | hread
  · exact .inl hnewest
  · rcases hstep.opened_or ho with ⟨o', ho', hname'⟩ | hnone
    · exact .inr (.inl ⟨o', ho', hname'.trans hname⟩)
    · by_cases hnewest : newest? files = some o.name
      · exact .inl (hname ▸ hnewest)
      · -- the file is given up at its end, so it has been read
        obtain ⟨hend, hmore⟩ := hpace o ho hnewest hnone
        obtain ⟨_, _, hreads⟩ := hkeeps.opened o ho
        have hread := hkeeps.hasRead hfolder ho hfile hname (hreads.empty hend) hmore
        exact .inr (.inr (hread.trans (hstep.linesOf_le hkeeps.opened _)))
  · exact .inr (.inr (hread.trans (hstep.linesOf_le hkeeps.opened _)))

/-- The program notes no line and keeps open what it has open. -/
theorem Covered.of_opened {f' : Follower} (h : Covered files f)
    (hlines : f'.linesRead = f.linesRead)
    (hopened : ∀ o, f.opened = some o → f'.opened = some o) : Covered files f' := by
  intro file hfile
  rcases h file hfile with hnewest | ⟨o, ho, hname⟩ | hread
  · exact .inl hnewest
  · exact .inr (.inl ⟨o, hopened o ho, hname⟩)
  · exact .inr (.inr (hread.trans (linesOf_congr hlines _).ge))

theorem Covered.write {front : List LogFile} {last : LogFile} (hfolder : Folder (front ++ [last]))
    (h : Covered (front ++ [last]) f) {text : Text} (htext : text.Ended) :
    Covered (front ++ [{ last with text := last.text ++ text }]) f := by
  have hfolder' := hfolder.write htext
  have hlast : newest? (front ++ [{ last with text := last.text ++ text }]) = some last.name :=
    hfolder'.newest?_eq_some_iff.2 ⟨_, _, rfl, rfl⟩
  intro file hfile
  rcases List.mem_append.1 hfile with hfile | hfile
  · rcases h file (List.mem_append_left _ hfile) with hnewest | hrest
    · rw [hfolder.newest?_eq_some_iff.2 ⟨_, _, rfl, rfl⟩] at hnewest
      exact .inl (hlast.trans hnewest)
    · exact .inr hrest
  · cases List.mem_singleton.1 hfile
    exact .inl hlast

theorem Covered.create (h : Covered files f) {name text : Text}
    (hfolder' : Folder (files ++ [⟨name, text, false⟩]))
    (hpace : ∀ file ∈ files, newest? files = some file.name →
      (∃ o ∈ f.opened, o.name = file.name) ∨ HasRead f file) :
    Covered (files ++ [⟨name, text, false⟩]) f := by
  intro file hfile
  rcases List.mem_append.1 hfile with hfile | hfile
  · rcases h file hfile with hnewest | hrest
    · exact .inr (hpace file hfile hnewest)
    · exact .inr hrest
  · cases List.mem_singleton.1 hfile
    exact .inl (hfolder'.newest?_eq_some_iff.2 ⟨_, _, rfl, rfl⟩)

end Covered

theorem PacedRun.covered {moves : List Move} {s : Scene} {r : Reader} (run : PacedRun moves s)
    (hreader : s.reader = some r) : Covered s.files r.follower := by
  induction run generalizing r with
  | start => cases hreader
  | step run hmove ih =>
    obtain ⟨hpace, hmove⟩ := pacedMove?_eq_some_iff.1 hmove
    have hfolder := Run.folder (PacedRun.run run)
    cases moveTo_of_move? hfolder hmove with
    | write hfiles htext =>
      rw [hfiles] at ih hfolder
      exact (ih hreader).write hfolder htext
    | create hjournal hnew htext =>
      exact (ih hreader).create (hfolder.create hjournal hnew htext) (hpace r hreader)
    | load _ hload =>
      cases hreader
      exact fun file hfile => .inr (.inr (linesOf_of_load_of_mem hfolder hload hfile).ge)
    | step hr =>
      cases hreader
      have hkeeps := Run.keeps (PacedRun.run run) hr
      exact (ih hr).step hfolder hkeeps (hpace _ hr)
    | restart hr hfault =>
      cases hreader
      refine (ih hr).of_opened rfl fun o ho => ?_
      have hkeeps := Run.keeps (PacedRun.run run) hr
      exact absurd (hkeeps.working o ho) hfault
    | take hr htake =>
      cases hreader
      obtain ⟨hlines, hopened, -⟩ := same_of_take? htake
      exact (ih hr).of_opened hlines fun o ho => hopened ▸ ho

/-! ### Main statement -/

/-- When all lines of all files have been read, all their entries have been delivered. -/
theorem entriesRead_eq {files : List LogFile} {f : Follower} (hfolder : Folder files)
    (h : ∀ file ∈ files, HasRead f file) : entriesRead files f = entriesOfJournal files := by
  rw [entriesOfJournal, hfolder.journalFiles_eq]
  refine List.flatMap_congr fun file hfile => ?_
  rw [List.take_of_length_le (h file hfile), wholeLines_eq (hfolder.ended file hfile)]

/-- **No line is lost when the game moves on to a new file**, if the game and the program keep pace:
whenever the reader is at the end of the newest file with nothing left to be read, every entry of
every journal file has been delivered once. -/
theorem delivered_perm_of_pacedRun {moves : List Move} {s : Scene} {r : Reader}
    (run : PacedRun moves s) (hreader : s.reader = some r) (hend : r.AtEnd s.files) :
    r.delivered.Perm (entriesOfJournal s.files) := by
  have hfolder := run.run.folder
  have hkeeps := run.run.keeps hreader
  obtain ⟨o, ho, hnewest, hbuffer, hmore⟩ := hend
  have hall : ∀ file ∈ s.files, HasRead r.follower file := by
    intro file hfile
    rcases run.covered hreader file hfile with hnewest' | ⟨o', ho', hname⟩ | hread
    · rw [hnewest] at hnewest'
      exact hkeeps.hasRead hfolder ho hfile (Option.some.inj hnewest') hbuffer hmore
    · cases ho.symm.trans ho'
      exact hkeeps.hasRead hfolder ho hfile hname hbuffer hmore
    · exact hread
  exact entriesRead_eq hfolder hall ▸ hkeeps.delivered

/-- The game begins a second file while the program has the first one open. -/
theorem delivered_perm_of_pacedRun_next :
    ∃ s r, PacedRun [.load, .create "Journal.1" "\x7b\x7d\n", .step, .step, .step,
        .create "Journal.2" "\x7b\x7d\n", .step, .take, .step, .step, .step, .step] s ∧
      s.reader = some r ∧ r.AtEnd s.files ∧ r.delivered.length = 2 ∧
      r.delivered.Perm (entriesOfJournal s.files) := by
  have run := runs_iff_foldlM.2 (rfl : List.foldlM pacedMove? {}
    [.load, .create "Journal.1" "\x7b\x7d\n", .step, .step, .step,
        .create "Journal.2" "\x7b\x7d\n", .step, .take, .step, .step, .step, .step] = some _)
  refine ⟨_, _, run, rfl, ⟨_, rfl, rfl, rfl, rfl⟩, rfl, ?_⟩
  exact delivered_perm_of_pacedRun run rfl ⟨_, rfl, rfl, rfl, rfl⟩

/-- Two files are begun while the program waits for the first one. It opens the second of them, and
what is in the first one is never delivered. -/
theorem not_delivered_perm_overtaken :
    ∃ s r, Run [.load, .step, .create "Journal.1" "\x7b\x7d\n", .create "Journal.2" "\x7b\x7d\n",
        .step, .step, .step] s ∧
      s.reader = some r ∧ r.AtEnd s.files ∧ ¬r.delivered.Perm (entriesOfJournal s.files) := by
  have run := runs_iff_foldlM.2 (rfl : List.foldlM Scene.move? {}
    [.load, .step, .create "Journal.1" "\x7b\x7d\n", .create "Journal.2" "\x7b\x7d\n",
      .step, .step, .step] = some _)
  refine ⟨_, _, run, rfl, ⟨_, rfl, rfl, rfl, rfl⟩, fun hperm => ?_⟩
  -- one entry has been delivered, but there are two
  exact absurd hperm.length_eq (by decide +kernel)

/-- The program has seen the end of the first file. Before it looks which file is the newest, the game
writes a further line into the first file and begins the second one. Up to there the two keep pace, but
now the program gives up the first file, and that line is never delivered. -/
theorem not_delivered_perm_unseen :
    ∃ s s' r, PacedRun [.load, .create "Journal.1" "\x7b\x7d\n", .step, .step, .step, .step,
        .write "Journal.1" "\x7b\x7d\n", .create "Journal.2" ""] s ∧
      ¬s.KeepsPace .step ∧ List.foldlM Scene.move? s [.step, .step, .step] = some s' ∧
      s'.reader = some r ∧ r.AtEnd s'.files ∧ ¬r.delivered.Perm (entriesOfJournal s'.files) := by
  have run := runs_iff_foldlM.2 (rfl : List.foldlM pacedMove? {}
    [.load, .create "Journal.1" "\x7b\x7d\n", .step, .step, .step, .step,
      .write "Journal.1" "\x7b\x7d\n", .create "Journal.2" ""] = some _)
  refine ⟨_, _, _, run, by decide +kernel, rfl, rfl, ⟨_, rfl, rfl, rfl, rfl⟩, fun hperm => ?_⟩
  exact absurd hperm.length_eq (by decide +kernel)

end JournalHerald.Journal

import JournalHerald.Journal.Follower
import JournalHerald.Proofs.Journal.Lines
import JournalHerald.Proofs.Runs

/-!
# The game writes and the program reads

While the game writes its journal, the program that follows it reads. The two take turns in any
order. The game writes whole lines: at the end of the newest file, or into a new file, which is the
newest from then on. The program reads the history once, and afterwards follows the newest file.

* `entriesIn` are the entries in the lines of a file, `entriesOfJournal` those in all files, which
  are what should be delivered;
* `Scene` is the folder and the program, `Move` is what either of them does, and `Run` the states
  that this leads to;
* `Folder` is what is true of the files at any time;
* `MoveTo` tells all that a move does.
-/

namespace JournalHerald.Journal

/-! ### The entries in lines -/

/-- The entry in a line with a number, if the line is one. -/
def entryAt? (file : Text) (number : Nat) (line : Text) : Option Fields :=
  (entryOf file number line).toOption.join

/-- The entries in the lines of a file. Lines that are no JSON objects are passed over. -/
def entriesIn (file : Text) (lines : List Text) : List Fields :=
  (lines.zipIdx 1).filterMap fun numbered => entryAt? file numbered.2 numbered.1

@[simp] theorem entriesIn_nil (file : Text) : entriesIn file [] = [] := rfl

theorem entriesIn_append_singleton (file : Text) (lines : List Text) (line : Text) :
    entriesIn file (lines ++ [line]) =
      entriesIn file lines ++ (entryAt? file (lines.length + 1) line).toList := by
  rw [entriesIn, List.zipIdx_append, List.filterMap_append, entriesIn]
  congr 1
  rw [Nat.add_comm 1]
  cases h : entryAt? file (lines.length + 1) line <;> simp [h]

theorem eq_of_entriesOf {file : Text} {number : Nat} {lines : List Text} {entries : List Fields}
    (h : entriesOf file number lines = .ok entries) :
    entries =
      (lines.zipIdx number).filterMap fun numbered => entryAt? file numbered.2 numbered.1 := by
  induction lines generalizing number entries with
  | nil => cases h; rfl
  | cons line lines ih =>
    rw [entriesOf] at h
    cases hentry : entryOf file number line with
    | error fault => rw [hentry] at h; cases h
    | ok entry =>
      cases hrest : entriesOf file (number + 1) lines with
      | error fault => rw [hentry, hrest] at h; cases h
      | ok rest =>
        rw [hentry, hrest] at h
        cases h
        have hline : entryAt? file number line = entry := by
          simp [entryAt?, hentry, Except.toOption]
        rw [List.zipIdx_cons, List.filterMap_cons, ← ih hrest, hline]
        cases entry <;> rfl

/-- The entries in the whole lines of all journal files. -/
def entriesOfJournal (files : List LogFile) : List Fields :=
  (journalFiles files).flatMap fun file => entriesIn file.name (History.wholeLines file.text)

/-! ### The folder and the program -/

/-- The program that reads the journal. -/
structure Reader where
  /-- What the journal held at the start. -/
  historic : List Fields
  follower : Follower
  /-- What has been taken out of the queue. -/
  taken : List Fields := []

/-- All entries that the reader has delivered. -/
def Reader.delivered (r : Reader) : List Fields :=
  r.historic ++ r.taken ++ r.follower.queue

/-- The reader is at the end of the newest file, and nothing in it is left to be read. -/
def Reader.AtEnd (files : List LogFile) (r : Reader) : Prop :=
  ∃ o, r.follower.opened = some o ∧ newest? files = some o.name ∧ o.buffer = [] ∧
    Follower.hasMore files o = false

/-- The folder of the journal, and the program from its start on. -/
structure Scene where
  files : List LogFile := []
  reader : Option Reader := none

/-- What happens to the journal. -/
inductive Move where
  /-- The game writes whole lines at the end of the newest file. -/
  | write (name text : Text)
  /-- The game begins a new file, with whole lines in it or empty. -/
  | create (name text : Text)
  /-- The program starts and reads the history. -/
  | load
  /-- The follower does one thing. -/
  | step
  /-- The follower begins anew after a fault. -/
  | restart
  /-- The program takes an entry out of the queue. -/
  | take

namespace Scene

/-- The state after a move, if the move is possible. -/
def move? (s : Scene) : Move → Option Scene
  | .write name text =>
    if newest? s.files = some name ∧ text.Ended then
      some { s with files := append name text s.files }
    else none
  | .create name text =>
    if isJournalName name = true ∧ find? s.files name = none ∧ text.Ended then
      some { s with files := append name text s.files }
    else none
  | .load =>
    match s.reader, History.load s.files with
    | none, .ok history =>
      some { s with reader := some ⟨history.entries, .ofHistory history, []⟩ }
    | _, _ => none
  | .step =>
    s.reader.map fun r => { s with reader := some { r with follower := r.follower.step s.files } }
  | .restart =>
    match s.reader with
    | some r =>
      if r.follower.fault = none then none
      else some { s with reader := some { r with follower := r.follower.restart } }
    | none => none
  | .take =>
    match s.reader with
    | some r =>
      r.follower.take?.map fun (entry, follower) =>
        { s with reader := some { r with follower, taken := r.taken ++ [entry] } }
    | none => none

end Scene

/-- The moves lead from an empty folder to a state. -/
abbrev Run : List Move → Scene → Prop :=
  Runs Scene.move? {}

/-! ### The files -/

/-- The folder holds journal files of different names, each of which consists of whole lines. -/
structure Folder (files : List LogFile) : Prop where
  journal : ∀ file ∈ files, isJournalName file.name = true
  ended : ∀ file ∈ files, file.text.Ended
  intact : ∀ file ∈ files, file.broken = false
  distinct : (files.map LogFile.name).Nodup

section Folder

variable {files : List LogFile} {file : LogFile} {name text : Text}

theorem Folder.nil : Folder [] := by
  constructor <;> simp

theorem Folder.journalFiles_eq (h : Folder files) : journalFiles files = files :=
  List.filter_eq_self.2 h.journal

theorem find?_of_mem (hdistinct : (files.map LogFile.name).Nodup) (hmem : file ∈ files) :
    find? files file.name = some file := by
  obtain ⟨front, back, rfl⟩ := List.append_of_mem hmem
  rw [List.map_append, List.map_cons, List.nodup_append] at hdistinct
  rw [find?, List.find?_eq_some_iff_append]
  refine ⟨by simp, front, back, rfl, fun other hother => ?_⟩
  have hne := hdistinct.2.2 other.name (List.mem_map_of_mem hother) file.name (by simp)
  simpa using hne

theorem Folder.find?_of_mem (h : Folder files) (hmem : file ∈ files) :
    find? files file.name = some file :=
  Journal.find?_of_mem h.distinct hmem

theorem Folder.eq_of_name_eq (h : Folder files) {other : LogFile} (hother : other ∈ files)
    (hfile : file ∈ files) (hname : other.name = file.name) : other = file :=
  Option.some.inj
    ((h.find?_of_mem hother).symm.trans (hname ▸ h.find?_of_mem hfile))

theorem Folder.newest?_eq_some_iff (h : Folder files) :
    newest? files = some name ↔ ∃ front last, files = front ++ [last] ∧ last.name = name := by
  rw [newest?, h.journalFiles_eq, Option.map_eq_some_iff]
  constructor
  · rintro ⟨last, hlast, hname⟩
    obtain ⟨front, rfl⟩ := List.getLast?_eq_some_iff.1 hlast
    exact ⟨front, last, rfl, hname⟩
  · rintro ⟨front, last, rfl, hname⟩
    exact ⟨last, by simp, hname⟩

/-- More lines are written into the newest file, and the other files stay as they are. -/
theorem Folder.append_newest {front : List LogFile} {last : LogFile}
    (h : Folder (front ++ [last])) (text : Text) :
    append last.name text (front ++ [last]) =
      front ++ [{ last with text := last.text ++ text }] := by
  have hlast : last ∈ front ++ [last] := by simp
  have hdistinct := h.distinct
  rw [List.map_append, List.nodup_append] at hdistinct
  have hothers : front.filter (fun f => f.name != last.name) = front :=
    List.filter_eq_self.2 fun f hf => by
      simpa using hdistinct.2.2 f.name (List.mem_map_of_mem hf) last.name (by simp)
  simp [append, h.find?_of_mem hlast, h.intact last hlast, List.filter_append, hothers]

theorem ne_of_find?_eq_none (hnew : find? files name = none) :
    ∀ file ∈ files, file.name ≠ name := fun file hfile => by
  simpa using List.find?_eq_none.1 hnew file hfile

theorem append_new (hnew : find? files name = none) (text : Text) :
    append name text files = files ++ [⟨name, text, false⟩] := by
  have hothers : files.filter (fun f => f.name != name) = files :=
    List.filter_eq_self.2 fun f hf => by simpa using ne_of_find?_eq_none hnew f hf
  rw [append, hnew, hothers]

theorem Folder.write {front : List LogFile} {last : LogFile} (h : Folder (front ++ [last]))
    (htext : text.Ended) : Folder (front ++ [{ last with text := last.text ++ text }]) where
  journal := by simpa [or_imp, forall_and] using h.journal
  ended := by
    have hended := h.ended
    simp only [List.mem_append, List.mem_singleton, or_imp, forall_and, forall_eq] at hended ⊢
    exact ⟨hended.1, hended.2.append htext⟩
  intact := by simpa [or_imp, forall_and] using h.intact
  distinct := by simpa using h.distinct

theorem Folder.create (h : Folder files) (hjournal : isJournalName name = true)
    (hnew : find? files name = none) (htext : text.Ended) :
    Folder (files ++ [⟨name, text, false⟩]) where
  journal := by
    simp only [List.mem_append, List.mem_singleton, or_imp, forall_and, forall_eq]
    exact ⟨h.journal, hjournal⟩
  ended := by
    simp only [List.mem_append, List.mem_singleton, or_imp, forall_and, forall_eq]
    exact ⟨h.ended, htext⟩
  intact := by
    simp only [List.mem_append, List.mem_singleton, or_imp, forall_and, forall_eq]
    exact ⟨h.intact, trivial⟩
  distinct := by
    rw [List.map_append, List.nodup_append]
    refine ⟨h.distinct, by simp, ?_⟩
    rintro other hother _ hname rfl
    obtain ⟨file, hfile, rfl⟩ := List.mem_map.1 hother
    exact ne_of_find?_eq_none hnew file hfile (by simpa using hname)

end Folder

/-! ### What a move does -/

/-- All that a move does. -/
inductive MoveTo (s : Scene) : Move → Scene → Prop where
  | write {front : List LogFile} {last : LogFile} {text : Text} : s.files = front ++ [last] →
      text.Ended → MoveTo s (.write last.name text)
        { s with files := front ++ [{ last with text := last.text ++ text }] }
  | create {name text : Text} : isJournalName name = true → find? s.files name = none →
      text.Ended → MoveTo s (.create name text) { s with files := s.files ++ [⟨name, text, false⟩] }
  | load {history : History} : s.reader = none → History.load s.files = .ok history →
      MoveTo s .load { s with reader := some ⟨history.entries, .ofHistory history, []⟩ }
  | step {r : Reader} : s.reader = some r →
      MoveTo s .step { s with reader := some { r with follower := r.follower.step s.files } }
  | restart {r : Reader} : s.reader = some r → r.follower.fault ≠ none →
      MoveTo s .restart { s with reader := some { r with follower := r.follower.restart } }
  | take {r : Reader} {entry : Fields} {follower : Follower} : s.reader = some r →
      r.follower.take? = some (entry, follower) → MoveTo s .take
        { s with reader := some { r with follower, taken := r.taken ++ [entry] } }

theorem moveTo_of_move? {s s' : Scene} {m : Move} (h : Folder s.files)
    (hmove : s.move? m = some s') : MoveTo s m s' := by
  cases m with
  | write name text =>
    simp only [Scene.move?] at hmove
    split at hmove
    · next hnewest =>
      obtain ⟨front, last, hfiles, rfl⟩ := h.newest?_eq_some_iff.1 hnewest.1
      rw [hfiles] at h hmove
      rw [h.append_newest] at hmove
      cases hmove
      exact .write hfiles hnewest.2
    · cases hmove
  | create name text =>
    simp only [Scene.move?] at hmove
    split at hmove
    · next hnew =>
      rw [append_new hnew.2.1] at hmove
      cases hmove
      exact .create hnew.1 hnew.2.1 hnew.2.2
    · cases hmove
  | load =>
    simp only [Scene.move?] at hmove
    split at hmove
    · next hreader hload =>
      cases hmove
      exact .load hreader hload
    · cases hmove
  | step =>
    obtain ⟨r, hreader, rfl⟩ := Option.map_eq_some_iff.1 hmove
    exact .step hreader
  | restart =>
    simp only [Scene.move?] at hmove
    split at hmove
    · next r hreader =>
      split at hmove
      · cases hmove
      · next hfault =>
        cases hmove
        exact .restart hreader hfault
    · cases hmove
  | take =>
    simp only [Scene.move?] at hmove
    split at hmove
    · next r hreader =>
      obtain ⟨⟨entry, follower⟩, htake, rfl⟩ := Option.map_eq_some_iff.1 hmove
      exact .take hreader htake
    · cases hmove

/-- The files are as they should be at any time. -/
theorem Run.folder {moves : List Move} {s : Scene} (run : Run moves s) : Folder s.files := by
  induction run with
  | start => exact .nil
  | step _ hmove ih =>
    cases moveTo_of_move? ih hmove with
    | write hfiles htext => exact (hfiles ▸ ih).write htext
    | create hjournal hnew htext => exact ih.create hjournal hnew htext
    | load => exact ih
    | step => exact ih
    | restart => exact ih
    | take => exact ih

end JournalHerald.Journal

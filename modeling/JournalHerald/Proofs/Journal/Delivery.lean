import JournalHerald.Proofs.Journal.Following
import Mathlib.Data.List.TakeWhile

/-!
# What the reader of the journal delivers

The reader notes how many lines of each file it has read. Whatever the game and the program do, the
entries in these lines have been delivered, each of them once, and nothing else has been delivered
(`Run.keeps`). That the noted numbers reach the ends of the files is another matter.

* `entriesRead` are the entries in the lines that have been read;
* `Keeps` is what is kept of a reader: that these are delivered, and what is needed to go on.
-/

namespace JournalHerald.Journal

open Follower

/-! ### What has been delivered -/

/-- The entries in the lines that have been read. -/
def entriesRead (files : List LogFile) (f : Follower) : List Fields :=
  files.flatMap fun file => entriesIn file.name ((Text.lines file.text).take (f.linesOf file.name))

/-- What is kept of a reader: as many lines of a file as have been noted have been delivered. -/
structure Keeps (files : List LogFile) (r : Reader) : Prop where
  bound : ∀ file ∈ files, r.follower.linesOf file.name ≤ (Text.lines file.text).length
  unknown : ∀ name, (∀ file ∈ files, file.name ≠ name) → r.follower.linesOf name = 0
  delivered : r.delivered.Perm (entriesRead files r.follower)
  opened : ∀ o, r.follower.opened = some o → ∃ file ∈ files, Reads r.follower o file
  working : ∀ o, r.follower.opened = some o → r.follower.fault = none

section Keeps

variable {files : List LogFile} {f f' : Follower} {r : Reader} {file : LogFile}

theorem entriesRead_congr (h : ∀ file ∈ files, f'.linesOf file.name = f.linesOf file.name) :
    entriesRead files f' = entriesRead files f :=
  List.flatMap_congr fun file hfile => by rw [h file hfile]

/-- When one more line of a file is noted, its entry is to be delivered. -/
theorem entriesRead_note (hfolder : Folder files) (hfile : file ∈ files) {line : Text}
    (hline : (Text.lines file.text)[f.linesOf file.name]? = some line)
    (h : f'.linesRead = note file.name (f.linesOf file.name + 1) f.linesRead) :
    (entriesRead files f').Perm (entriesRead files f ++
      (entryAt? file.name (f.linesOf file.name + 1) line).toList) := by
  obtain ⟨front, back, rfl⟩ := List.append_of_mem hfile
  have hdistinct := hfolder.distinct
  simp only [List.map_append, List.map_cons, List.nodup_append, List.nodup_cons] at hdistinct
  have hfront : entriesRead front f' = entriesRead front f :=
    entriesRead_congr fun other hother => linesOf_note_of_ne h
      (hdistinct.2.2 other.name (List.mem_map_of_mem hother) file.name (by simp))
  have hback : entriesRead back f' = entriesRead back f :=
    entriesRead_congr fun other hother => linesOf_note_of_ne h fun hname =>
      hdistinct.2.1.1 (hname ▸ List.mem_map_of_mem hother)
  have hlt := (List.getElem?_eq_some_iff.1 hline).1
  have htake : (Text.lines file.text).take (f.linesOf file.name + 1) =
      (Text.lines file.text).take (f.linesOf file.name) ++ [line] := by
    rw [List.take_add_one, hline, Option.toList_some]
  have hentries : entriesIn file.name ((Text.lines file.text).take (f'.linesOf file.name)) =
      entriesIn file.name ((Text.lines file.text).take (f.linesOf file.name)) ++
        (entryAt? file.name (f.linesOf file.name + 1) line).toList := by
    rw [linesOf_note h, htake, entriesIn_append_singleton, List.length_take_of_le hlt.le]
  have hsplit : ∀ g : Follower, entriesRead (front ++ file :: back) g = entriesRead front g ++
      (entriesIn file.name ((Text.lines file.text).take (g.linesOf file.name)) ++
        entriesRead back g) := by
    intro g
    simp [entriesRead]
  rw [hsplit, hsplit, hfront, hback, hentries]
  simp only [List.append_assoc]
  exact (List.perm_append_comm.append_left _).append_left _

/-- A change that neither notes a line nor delivers anything. -/
theorem Keeps.of_linesRead_eq {r' : Reader} (h : Keeps files r)
    (hlines : r'.follower.linesRead = r.follower.linesRead)
    (hdelivered : r'.delivered = r.delivered)
    (hopened : ∀ o, r'.follower.opened = some o → ∃ file ∈ files, Reads r'.follower o file)
    (hworking : ∀ o, r'.follower.opened = some o → r'.follower.fault = none) :
    Keeps files r' where
  bound file hfile := (linesOf_congr hlines _).trans_le (h.bound file hfile)
  unknown name hname := (linesOf_congr hlines _).trans (h.unknown name hname)
  delivered := by
    rw [entriesRead_congr fun file _ => linesOf_congr hlines file.name, hdelivered]
    exact h.delivered
  opened := hopened
  working := hworking

/-- A change that notes one more line of a file and delivers its entry. -/
theorem Keeps.of_linesRead_eq_note {r' : Reader} (hfolder : Folder files) (h : Keeps files r)
    (hfile : file ∈ files) {line : Text}
    (hline : (Text.lines file.text)[r.follower.linesOf file.name]? = some line)
    (hlines : r'.follower.linesRead =
      note file.name (r.follower.linesOf file.name + 1) r.follower.linesRead)
    (hdelivered : r'.delivered = r.delivered ++
      (entryAt? file.name (r.follower.linesOf file.name + 1) line).toList)
    (hopened : ∀ o, r'.follower.opened = some o → ∃ file ∈ files, Reads r'.follower o file)
    (hworking : ∀ o, r'.follower.opened = some o → r'.follower.fault = none) :
    Keeps files r' where
  bound other hother := by
    by_cases hname : other.name = file.name
    · rw [hfolder.eq_of_name_eq hother hfile hname, linesOf_note hlines]
      exact (List.getElem?_eq_some_iff.1 hline).1
    · rw [linesOf_note_of_ne hlines hname]
      exact h.bound other hother
  unknown name hname := by
    rw [linesOf_note_of_ne hlines (hname file hfile).symm]
    exact h.unknown name hname
  delivered := by
    refine .trans ?_ (entriesRead_note hfolder hfile hline hlines).symm
    rw [hdelivered]
    exact h.delivered.append_right _
  opened := hopened
  working := hworking

theorem Keeps.step (h : Keeps files r) (hfolder : Folder files) :
    Keeps files { r with follower := r.follower.step files } := by
  have hstep := stepTo_step hfolder h.opened
  generalize r.follower.step files = f' at hstep
  cases hstep with
  | rest => exact h
  | openNewest hfault hnone hfile hnewest =>
    refine h.of_linesRead_eq rfl rfl ?_ fun _ _ => hfault
    rintro _ ⟨⟩
    exact ⟨_, hfile, .opened rfl rfl rfl rfl rfl rfl⟩
  | again ho hnewest =>
    obtain ⟨file, hfile, hreads⟩ := h.opened _ ho
    refine h.of_linesRead_eq rfl rfl ?_ fun _ _ => h.working _ ho
    rintro _ ⟨⟩
    exact ⟨file, hfile, hreads.again rfl⟩
  | leave ho hend hnewest =>
    exact h.of_linesRead_eq rfl rfl (by rintro _ ⟨⟩) (by rintro _ ⟨⟩)
  | @fill o file ho hfile hname hbuffer =>
    obtain ⟨file', hfile', hreads⟩ := h.opened _ ho
    cases hfolder.eq_of_name_eq hfile' hfile (hreads.name.trans hname.symm)
    refine h.of_linesRead_eq rfl rfl ?_ fun _ _ => h.working _ ho
    rintro _ ⟨⟩
    exact ⟨_, hfile, hreads.fill (hfolder.ended _ hfile) hbuffer rfl⟩
  | skip ho hbuffer hend hskip =>
    obtain ⟨file, hfile, hreads⟩ := h.opened _ ho
    refine h.of_linesRead_eq rfl rfl ?_ fun _ _ => h.working _ ho
    rintro _ ⟨⟩
    refine ⟨file, hfile, hreads.line hbuffer hend ?_⟩
    -- the line was read before the file was opened, so its number is not noted anew
    have hlinesOf := hreads.linesOf
    rw [Nat.max_eq_left (by omega)] at hlinesOf
    rw [Nat.max_eq_left hskip]
    exact hlinesOf
  | read ho hbuffer hend hread hlines hqueue hopened =>
    obtain ⟨file, hfile, hreads⟩ := h.opened _ ho
    -- as many lines of the file have been noted as have been completed
    have hlinesOf := hreads.linesOf
    rw [Nat.max_eq_right hread, ← hreads.name] at hlinesOf
    have hline := hreads.getElem?_lines hbuffer
    rw [← hlinesOf] at hline hlines hqueue
    rw [← hreads.name] at hlines hqueue
    refine h.of_linesRead_eq_note hfolder hfile hline hlines ?_ ?_ ?_
    · rw [Reader.delivered, hqueue, ← List.append_assoc]
      rfl
    · rintro o ho'
      rcases hopened with ⟨hopened, -⟩ | hopened
      · cases hopened.symm.trans ho'
        refine ⟨file, hfile, hreads.line hbuffer hend ?_⟩
        rw [Nat.max_eq_right (by omega), ← hlinesOf, ← hreads.name]
        exact linesOf_note hlines
      · cases hopened.symm.trans ho'
    · intro o ho'
      rcases hopened with ⟨-, hfault⟩ | hopened
      · exact hfault.trans (h.working _ ho)
      · cases hopened.symm.trans ho'

/-! ### Moves of the game -/

/-- More lines are written into the newest file. -/
theorem Keeps.write {front : List LogFile} {last : LogFile} (hfolder : Folder (front ++ [last]))
    (h : Keeps (front ++ [last]) r) (text : Text) :
    Keeps (front ++ [{ last with text := last.text ++ text }]) r where
  bound := by
    intro file hfile
    rcases List.mem_append.1 hfile with hfile | hfile
    · exact h.bound file (List.mem_append_left _ hfile)
    · cases List.mem_singleton.1 hfile
      have hlast : last ∈ front ++ [last] := by simp
      refine (h.bound last hlast).trans ?_
      rw [Text.lines_append (hfolder.ended last hlast), List.length_append]
      exact Nat.le_add_right ..
  unknown name hname := by
    refine h.unknown name fun file hfile => ?_
    rcases List.mem_append.1 hfile with hfile | hfile
    · exact hname file (List.mem_append_left _ hfile)
    · cases List.mem_singleton.1 hfile
      exact hname { last with text := last.text ++ text } (by simp)
  delivered := by
    have hlast : last ∈ front ++ [last] := by simp
    have htake : (Text.lines (last.text ++ text)).take (r.follower.linesOf last.name) =
        (Text.lines last.text).take (r.follower.linesOf last.name) := by
      rw [Text.lines_append (hfolder.ended last hlast),
        List.take_append_of_le_length (h.bound last hlast)]
    have hsame : entriesRead (front ++ [{ last with text := last.text ++ text }]) r.follower =
        entriesRead (front ++ [last]) r.follower := by
      simp [entriesRead, htake]
    exact hsame ▸ h.delivered
  opened o ho := by
    obtain ⟨file, hfile, hreads⟩ := h.opened o ho
    rcases List.mem_append.1 hfile with hfile | hfile
    · exact ⟨file, List.mem_append_left _ hfile, hreads⟩
    · cases List.mem_singleton.1 hfile
      exact ⟨_, by simp, hreads.write text⟩
  working := h.working

/-- A new file is begun. -/
theorem Keeps.create (h : Keeps files r) {name : Text} (hnew : find? files name = none)
    (text : Text) : Keeps (files ++ [⟨name, text, false⟩]) r where
  bound := by
    intro file hfile
    rcases List.mem_append.1 hfile with hfile | hfile
    · exact h.bound file hfile
    · cases List.mem_singleton.1 hfile
      rw [h.unknown name (ne_of_find?_eq_none hnew)]
      exact Nat.zero_le _
  unknown name hname := h.unknown name fun file hfile => hname file (List.mem_append_left _ hfile)
  delivered := by
    have hsame : entriesRead (files ++ [⟨name, text, false⟩]) r.follower =
        entriesRead files r.follower := by
      simp [entriesRead, h.unknown name (ne_of_find?_eq_none hnew)]
    exact hsame ▸ h.delivered
  opened o ho := by
    obtain ⟨file, hfile, hreads⟩ := h.opened o ho
    exact ⟨file, List.mem_append_left _ hfile, hreads⟩
  working := h.working

/-! ### Moves of the program -/

theorem wholeLines_eq (h : file.text.Ended) : History.wholeLines file.text = Text.lines file.text :=
  List.takeWhile_eq_self_iff.2 (Text.isWhole_of_mem_lines h)

theorem eq_of_loadFile {history history' : History}
    (h : History.loadFile history file = .ok history') :
    history' = ⟨history.entries ++ entriesIn file.name (History.wholeLines file.text),
      history.linesRead ++ [(file.name, (History.wholeLines file.text).length)]⟩ := by
  rw [History.loadFile] at h
  cases hentries : entriesOf file.name 1 (History.wholeLines file.text) with
  | error fault => rw [hentries] at h; cases h
  | ok entries =>
    have heq : entries = entriesIn file.name (History.wholeLines file.text) :=
      eq_of_entriesOf hentries
    rw [hentries, heq] at h
    cases hbroken : file.broken with
    | true => rw [hbroken] at h; cases h
    | false => rw [hbroken] at h; cases h; rfl

theorem eq_of_foldlM_loadFile {history history' : History}
    (h : files.foldlM History.loadFile history = .ok history') :
    history' = ⟨history.entries ++
        files.flatMap (fun file => entriesIn file.name (History.wholeLines file.text)),
      history.linesRead ++
        files.map fun file => (file.name, (History.wholeLines file.text).length)⟩ := by
  induction files generalizing history with
  | nil =>
    cases h
    simp
  | cons file files ih =>
    rw [List.foldlM_cons] at h
    cases hfile : History.loadFile history file with
    | error fault => rw [hfile] at h; cases h
    | ok history₁ =>
      rw [hfile] at h
      rw [ih h, eq_of_loadFile hfile]
      simp

theorem linesOf_of_load {history : History} (h : History.load files = .ok history) (name : Text) :
    (Follower.ofHistory history).linesOf name =
      ((find? (journalFiles files) name).map fun file => (History.wholeLines file.text).length).getD 0 := by
  have hlines : (Follower.ofHistory history).linesRead =
      (journalFiles files).map fun file => (file.name, (History.wholeLines file.text).length) := by
    rw [eq_of_foldlM_loadFile h]
    rfl
  rw [linesOf, hlines, List.find?_map, Option.map_map]
  rfl

/-- The history holds all lines of all files. -/
theorem linesOf_of_load_of_mem (hfolder : Folder files) {history : History}
    (h : History.load files = .ok history) (hfile : file ∈ files) :
    (Follower.ofHistory history).linesOf file.name = (Text.lines file.text).length := by
  rw [linesOf_of_load h, hfolder.journalFiles_eq, hfolder.find?_of_mem hfile, Option.map_some, Option.getD_some,
    wholeLines_eq (hfolder.ended file hfile)]

/-- The program has read the history. -/
theorem Keeps.load (hfolder : Folder files) {history : History}
    (h : History.load files = .ok history) :
    Keeps files ⟨history.entries, .ofHistory history, []⟩ where
  bound _ hfile := (linesOf_of_load_of_mem hfolder h hfile).le
  unknown name hname := by
    have hnone : find? files name = none :=
      List.find?_eq_none.2 fun file hfile => by simpa using hname file hfile
    rw [linesOf_of_load h, hfolder.journalFiles_eq, hnone]
    rfl
  delivered := by
    have hentries : history.entries = entriesRead files (.ofHistory history) := by
      have hload := h
      rw [History.load, hfolder.journalFiles_eq] at hload
      refine (congrArg History.entries (eq_of_foldlM_loadFile hload)).trans ?_
      refine List.flatMap_congr fun file hfile => ?_
      rw [linesOf_of_load_of_mem hfolder h hfile, List.take_length,
        wholeLines_eq (hfolder.ended file hfile)]
    rw [Reader.delivered, ← hentries]
    simp [Follower.ofHistory]
  opened _ ho := by cases ho
  working _ ho := by cases ho

theorem same_of_take? {entry : Fields} (h : f.take? = some (entry, f')) :
    f'.linesRead = f.linesRead ∧ f'.opened = f.opened ∧ f'.fault = f.fault ∧
      f.queue = entry :: f'.queue := by
  rw [take?] at h
  split at h
  · cases h
  · next first rest hqueue =>
    cases h
    exact ⟨rfl, rfl, rfl, hqueue⟩

/-- The program takes an entry out of the queue. -/
theorem Keeps.take (h : Keeps files r) {entry : Fields}
    (htake : r.follower.take? = some (entry, f')) :
    Keeps files { r with follower := f', taken := r.taken ++ [entry] } := by
  obtain ⟨hlines, hopened, hfault, hqueue⟩ := same_of_take? htake
  refine h.of_linesRead_eq hlines (by simp [Reader.delivered, hqueue]) (fun o ho => ?_) fun o ho =>
    hfault.trans (h.working o (hopened ▸ ho))
  obtain ⟨file, hfile, hreads⟩ := h.opened o (hopened ▸ ho)
  exact ⟨file, hfile, hreads.congr hlines⟩

theorem Keeps.restart (h : Keeps files r) :
    Keeps files { r with follower := r.follower.restart } :=
  h.of_linesRead_eq rfl rfl (by rintro _ ⟨⟩) (by rintro _ ⟨⟩)

end Keeps

/-- **As many lines of a file as the follower has noted have been delivered, each of them once.** -/
theorem Run.keeps {moves : List Move} {s : Scene} {r : Reader} (run : Run moves s)
    (hreader : s.reader = some r) : Keeps s.files r := by
  induction run generalizing r with
  | start => cases hreader
  | step run hmove ih =>
    have hfolder := Run.folder run
    cases moveTo_of_move? hfolder hmove with
    | write hfiles =>
      rw [hfiles] at ih hfolder
      exact (ih hreader).write hfolder _
    | create _ hnew => exact (ih hreader).create hnew _
    | load _ hload =>
      cases hreader
      exact .load hfolder hload
    | step hr =>
      cases hreader
      exact (ih hr).step hfolder
    | restart hr =>
      cases hreader
      exact (ih hr).restart
    | take hr htake =>
      cases hreader
      exact (ih hr).take htake

end JournalHerald.Journal

import JournalHerald.Proofs.Journal.Delivery
import JournalHerald.Proofs.Journal.FedLines

/-!
# A file that grows in pieces

The game writes its lines in pieces, which may end anywhere, also inside a line. While it does so, the
program reads the history and then follows the file. The file has two readers: one passes over a
line that has no end yet, the other puts the parts of a line together. They agree on the lines and on
their numbers, wherever the pieces end and whenever the program looks.

* `objectsOf` are the entries that a text should yield: the JSON objects among its complete lines;
* `GrowingRun` are the states that the game and the program lead to, `written` what the game wrote;
* `Assembles` is what is kept of the open file: what has been seen of it is the completed lines, then
  the parts of a line, then the buffer;
* `Tails` is what is kept of the program.
-/

namespace JournalHerald.Journal

open Follower

/-! ### What a text should yield -/

/-- The object in a line, if the line is one. -/
def objectIn? (line : Text) : Option Fields :=
  match Json.parse line with
  | .ok (.object fields) => some fields
  | _ => none

/-- The line is a JSON object or not JSON at all. -/
def Legible (line : Text) : Prop :=
  (∃ fields, Json.parse line = .ok (.object fields)) ∨
    ∃ error, Json.parse line = .error error ∧ error.fault.isSyntax = true

/-- The entries that a text should yield: the JSON objects among its complete lines, in order, each
with the number of its line in its id. -/
def objectsOf (file text : Text) : List Fields :=
  (text.fedLines.zipIdx 1).filterMap fun numbered =>
    (objectIn? numbered.1).map fun fields =>
      Fields.set fields idField (.text (entryId file numbered.2))

section Legible

variable {file line : Text} {number : Nat} {lines : List Text}

theorem entryOf_of_legible (h : Legible line) : entryOf file number line =
    .ok ((objectIn? line).map fun fields =>
      Fields.set fields idField (.text (entryId file number))) := by
  rcases h with ⟨fields, hparse⟩ | ⟨error, hparse, hsyntax⟩
  · simp [entryOf, objectIn?, hparse]
  · simp [entryOf, objectIn?, hparse, hsyntax]

theorem entryAt?_of_legible (h : Legible line) : entryAt? file number line =
    (objectIn? line).map fun fields =>
      Fields.set fields idField (.text (entryId file number)) := by
  rw [entryAt?, entryOf_of_legible h]
  rfl

theorem entriesOf_of_legible (h : ∀ line ∈ lines, Legible line) (file : Text) (number : Nat) :
    ∃ entries, entriesOf file number lines = .ok entries := by
  induction lines generalizing number with
  | nil => exact ⟨[], rfl⟩
  | cons line lines ih =>
    obtain ⟨hline, hlines⟩ := List.forall_mem_cons.1 h
    obtain ⟨entries, hentries⟩ := ih hlines (number + 1)
    rw [entriesOf, entryOf_of_legible hline, hentries]
    exact ⟨_, rfl⟩

theorem entriesIn_fedLines {text : Text} (h : ∀ line ∈ text.fedLines, Legible line) :
    entriesIn file text.fedLines = objectsOf file text := by
  refine List.filterMap_congr fun numbered hnumbered => entryAt?_of_legible (h _ ?_)
  exact List.fst_mem_of_mem_zipIdx hnumbered

end Legible

/-! ### The game and the program -/

/-- The state after a move, if the move is possible: the game writes pieces of text without carriage
returns into the file that there is, and begins no other file. -/
def growingMove? (s : Scene) : Move → Option Scene
  | .write name text =>
    if newest? s.files = some name ∧ .char '\r' ∉ text then
      some { s with files := append name text s.files }
    else none
  | .create _ _ => none
  | move => s.move? move

/-- The moves lead from a folder in which there is one file to a state. -/
abbrev GrowingRun (name content : Text) : List Move → Scene → Prop :=
  Runs growingMove? { files := [⟨name, content, false⟩] }

/-- What the game writes. -/
def written (moves : List Move) : Text :=
  moves.flatMap fun
    | .write _ text => text
    | _ => []

theorem written_append_singleton (moves : List Move) (move : Move) :
    written (moves ++ [move]) = written moves ++ written [move] := by
  simp [written]

theorem written_singleton (move : Move) :
    written [move] = match move with
      | .write _ text => text
      | _ => [] :=
  List.append_nil _

/-! ### The open file -/

/-- A follower reads a file that grows in pieces. What it has seen of the file is the lines that it has
completed, then the parts of the line that it puts together, and then what is in the buffer. -/
structure Assembles (f : Follower) (o : Opened) (file : LogFile) : Prop where
  name : o.name = file.name
  position : o.position ≤ file.text.length
  seen : ∃ completed : List Text, (∀ line ∈ completed, line.IsFed) ∧
    completed.length = o.lineCount ∧
    file.text.take o.position = completed.flatten ++ (o.pending ++ o.buffer)
  pending : .char '\n' ∉ o.pending
  linesOf : f.linesOf file.name = max o.skipped o.lineCount

section Assembles

variable {f f' : Follower} {o : Opened} {file : LogFile}

theorem Assembles.congr (h : Assembles f o file) (hlines : f'.linesRead = f.linesRead) :
    Assembles f' o file :=
  { h with linesOf := (linesOf_congr hlines _).trans h.linesOf }

theorem Assembles.again (h : Assembles f o file) (hlines : f'.linesRead = f.linesRead) :
    Assembles f' { o with atEnd := false } file where
  name := h.name
  position := h.position
  seen := h.seen
  pending := h.pending
  linesOf := (linesOf_congr hlines _).trans h.linesOf

theorem Assembles.opened (f : Follower) (file : LogFile) :
    Assembles f { name := file.name, skipped := f.linesOf file.name } file where
  name := rfl
  position := Nat.zero_le _
  seen := ⟨[], by simp⟩
  pending := by simp
  linesOf := by simp

theorem Assembles.write (h : Assembles f o file) (text : Text) :
    Assembles f o { file with text := file.text ++ text } where
  name := h.name
  position := by
    rw [List.length_append]
    exact h.position.trans (Nat.le_add_right ..)
  seen := by
    simpa only [List.take_append_of_le_length h.position] using h.seen
  pending := h.pending
  linesOf := h.linesOf

/-- The rest of the file is read into the buffer, which is empty. -/
theorem Assembles.fill (h : Assembles f o file) (hbuffer : o.buffer = []) :
    Assembles f (Follower.fill file.text o) file where
  name := h.name
  position := by
    have := h.position
    simp only [Follower.fill, List.length_drop]
    omega
  seen := by
    obtain ⟨completed, hcompleted, hcount, htake⟩ := h.seen
    refine ⟨completed, hcompleted, hcount, ?_⟩
    have hall : o.position + (file.text.drop o.position).length = file.text.length := by
      have := h.position
      rw [List.length_drop]
      omega
    have hbehind : file.text = completed.flatten ++ (o.pending ++ file.text.drop o.position) := by
      rw [hbuffer, List.append_nil] at htake
      rw [← List.append_assoc, ← htake, List.take_append_drop]
    simp only [Follower.fill, hall, List.take_length]
    exact hbehind
  pending := h.pending
  linesOf := h.linesOf

/-- The line behind the completed ones, once it has its end. -/
theorem Assembles.getElem?_fedLines (h : Assembles f o file) {line rest : Text}
    (hline : line.IsFed) (hsplit : o.pending ++ o.buffer = line ++ rest) :
    file.text.fedLines[o.lineCount]? = some line := by
  obtain ⟨completed, hcompleted, hcount, htake⟩ := h.seen
  obtain ⟨more, last, hmore, hlast, hrest⟩ :=
    Text.exists_eq_flatten_append (rest ++ file.text.drop o.position)
  have hall : ∀ line' ∈ completed ++ line :: more, line'.IsFed := by
    simpa [or_imp, forall_and] using ⟨hcompleted, hline, hmore⟩
  have htext : file.text = (completed ++ line :: more).flatten ++ last := by
    rw [← List.take_append_drop o.position file.text, htake, hsplit]
    simp [hrest]
  rw [htext, Text.fedLines_flatten_append hall hlast, ← hcount,
    List.getElem?_append_right (le_refl _), Nat.sub_self, List.getElem?_cons_zero]

/-- At the end of the file all its complete lines have been completed. -/
theorem Assembles.lineCount_eq (h : Assembles f o file) (hbuffer : o.buffer = [])
    (hend : file.text.length ≤ o.position) : o.lineCount = file.text.fedLines.length := by
  obtain ⟨completed, hcompleted, hcount, htake⟩ := h.seen
  rw [List.take_of_length_le hend, hbuffer, List.append_nil] at htake
  rw [htake, Text.fedLines_flatten_append hcompleted h.pending, hcount]

/-- A part of a line has been taken out of the buffer, and there is no more. -/
theorem Assembles.part (h : Assembles f o file) (hpart : .char '\n' ∉ o.buffer) :
    Assembles f { o with buffer := [], pending := o.pending ++ o.buffer } file where
  name := h.name
  position := h.position
  seen := by simpa using h.seen
  pending := by simpa using ⟨h.pending, hpart⟩
  linesOf := h.linesOf

/-- A line has been completed. -/
theorem Assembles.line (h : Assembles f o file) {line rest : Text} (hline : line.IsFed)
    (hsplit : o.pending ++ o.buffer = line ++ rest)
    (hlinesOf : f'.linesOf file.name = max o.skipped (o.lineCount + 1)) :
    Assembles f' { o with buffer := rest, pending := [], lineCount := o.lineCount + 1 } file where
  name := h.name
  position := h.position
  seen := by
    obtain ⟨completed, hcompleted, hcount, htake⟩ := h.seen
    refine ⟨completed ++ [line], ?_, by simp [hcount], ?_⟩
    · simpa [or_imp, forall_and] using ⟨hcompleted, hline⟩
    · rw [htake, hsplit]
      simp
  pending := by simp
  linesOf := hlinesOf

theorem Assembles.not_mem_buffer (h : Assembles f o file) (hreturn : .char '\r' ∉ file.text) :
    .char '\r' ∉ o.buffer := by
  obtain ⟨completed, -, -, htake⟩ := h.seen
  intro hmem
  refine hreturn (List.mem_of_mem_take (i := o.position) ?_)
  rw [htake]
  simp [hmem]

/-- The next line in the buffer ends the line that is being put together, or it is all that is left
and has no end. -/
theorem Assembles.nextLine_cases (h : Assembles f o file) (hreturn : .char '\r' ∉ file.text) :
    ((o.pending ++ (Text.nextLine o.buffer).1).IsFed ∧
      o.pending ++ o.buffer = (o.pending ++ (Text.nextLine o.buffer).1) ++ (Text.nextLine o.buffer).2) ∨
    (.char '\n' ∉ o.buffer ∧ Text.nextLine o.buffer = (o.buffer, [])) := by
  obtain ⟨hcases, hsplit⟩ := Text.nextLine_cases (h.not_mem_buffer hreturn)
  rcases hcases with ⟨body, hbody, hline⟩ | ⟨hpart, hrest⟩
  · refine .inl ⟨⟨o.pending ++ body, by simpa using ⟨h.pending, hbody⟩, by simp [hline]⟩, ?_⟩
    rw [List.append_assoc, ← hsplit]
  · rw [hrest, List.append_nil] at hsplit
    rw [← hsplit] at hpart
    exact .inr ⟨hpart, Prod.ext hsplit.symm hrest⟩

end Assembles

/-! ### The program -/

/-- What is kept of the program that reads a file which grows in pieces: as many complete lines of the
file as have been noted have been delivered, and no line has failed. -/
structure Tails (file : LogFile) (r : Reader) : Prop where
  bound : r.follower.linesOf file.name ≤ file.text.fedLines.length
  delivered : r.delivered =
    entriesIn file.name (file.text.fedLines.take (r.follower.linesOf file.name))
  opened : ∀ o, r.follower.opened = some o → Assembles r.follower o file
  working : r.follower.fault = none

section Tails

variable {file : LogFile} {r : Reader} {f' : Follower} {o : Opened}

/-- A change that neither notes a line nor delivers anything. -/
theorem Tails.of_linesRead_eq {r' : Reader} (h : Tails file r)
    (hlines : r'.follower.linesRead = r.follower.linesRead) (hdelivered : r'.delivered = r.delivered)
    (hopened : ∀ o, r'.follower.opened = some o → Assembles r'.follower o file)
    (hworking : r'.follower.fault = none) : Tails file r' where
  bound := (linesOf_congr hlines _).trans_le h.bound
  delivered := by rw [linesOf_congr hlines, hdelivered, h.delivered]
  opened := hopened
  working := hworking

/-- A line is completed that was read before the file was opened. -/
theorem Tails.skip (h : Tails file r) (ho : r.follower.opened = some o) {line rest : Text}
    (hline : line.IsFed) (hsplit : o.pending ++ o.buffer = line ++ rest)
    (hskip : o.lineCount + 1 ≤ o.skipped) :
    Tails file { r with follower := { r.follower with
      opened := some { o with buffer := rest, pending := [], lineCount := o.lineCount + 1 } } } := by
  refine h.of_linesRead_eq rfl rfl ?_ h.working
  rintro _ ⟨⟩
  refine (h.opened o ho).line hline hsplit ?_
  rw [Nat.max_eq_left hskip, ← Nat.max_eq_left (Nat.le_of_succ_le hskip)]
  exact (h.opened o ho).linesOf

/-- A line is completed, noted and delivered. -/
theorem Tails.read (h : Tails file r) (ho : r.follower.opened = some o) {line rest : Text}
    (hline : line.IsFed) (hsplit : o.pending ++ o.buffer = line ++ rest)
    (hread : o.skipped ≤ o.lineCount) :
    Tails file { r with follower := { r.follower with
      linesRead := note o.name (o.lineCount + 1) r.follower.linesRead
      opened := some { o with buffer := rest, pending := [], lineCount := o.lineCount + 1 }
      queue := r.follower.queue ++ (entryAt? o.name (o.lineCount + 1) line).toList } } := by
  have hopened := h.opened o ho
  have hlinesOf := hopened.linesOf
  rw [Nat.max_eq_right hread] at hlinesOf
  have hlineAt := hopened.getElem?_fedLines hline hsplit
  obtain ⟨hlt, -⟩ := List.getElem?_eq_some_iff.1 hlineAt
  have hcount : ∀ f' : Follower, f'.linesRead =
      note o.name (o.lineCount + 1) r.follower.linesRead → f'.linesOf file.name = o.lineCount + 1 :=
    fun f' hnote => linesOf_note (hopened.name ▸ hnote)
  constructor
  · rw [hcount _ rfl]
    exact hlt
  · rw [hcount _ rfl, List.take_add_one, hlineAt, Option.toList_some, entriesIn_append_singleton,
      List.length_take_of_le hlt.le, ← hlinesOf, ← h.delivered, hlinesOf, hopened.name]
    simp [Reader.delivered]
  · rintro _ ⟨⟩
    refine hopened.line hline hsplit ?_
    rw [hcount _ rfl, Nat.max_eq_right (Nat.le_succ_of_le hread)]
  · exact h.working

theorem Tails.takeLine (h : Tails file r) (hreturn : .char '\r' ∉ file.text)
    (hlegible : ∀ line ∈ file.text.fedLines, Legible line) (ho : r.follower.opened = some o) :
    Tails file { r with follower := r.follower.takeLine o } := by
  have hopened := h.opened o ho
  rcases hopened.nextLine_cases hreturn with ⟨hline, hsplit⟩ | ⟨hpart, hnext⟩
  · simp only [Follower.takeLine, if_pos hline.isWhole]
    simp only [complete]
    split
    · next hskip => exact h.skip ho hline hsplit hskip
    · next hread =>
      have hmem := List.mem_of_getElem? (hopened.getElem?_fedLines hline hsplit)
      have hdone := h.read ho hline hsplit (by omega)
      rw [entryAt?_of_legible (hlegible _ hmem)] at hdone
      rw [entryOf_of_legible (hlegible _ hmem)]
      exact hdone
  · have hwhole : Text.isWhole (o.pending ++ o.buffer) = false :=
      Text.isWhole_eq_false (by simpa using ⟨hopened.pending, hpart⟩)
    simp only [Follower.takeLine, hnext, hwhole, Bool.false_eq_true, if_false]
    refine h.of_linesRead_eq rfl rfl ?_ h.working
    rintro _ ⟨⟩
    exact (hopened.part hpart).congr rfl

theorem Tails.step (h : Tails file r) (hjournal : isJournalName file.name = true)
    (hintact : file.broken = false) (hreturn : .char '\r' ∉ file.text)
    (hlegible : ∀ line ∈ file.text.fedLines, Legible line) :
    Tails file { r with follower := r.follower.step [file] } := by
  have hnewest : newest? [file] = some file.name := by simp [newest?, journalFiles, hjournal]
  unfold Follower.step
  split
  · exact h
  · rw [hnewest]
    refine h.of_linesRead_eq rfl rfl ?_ h.working
    rintro _ ⟨⟩
    exact (Assembles.opened r.follower file).congr rfl
  · next o _ ho =>
    have hopened := h.opened o ho
    have hfind : find? [file] o.name = some file := by simp [find?, hopened.name]
    rw [hnewest, hfind, if_pos (congrArg some hopened.name.symm)]
    simp only [hintact, Bool.false_eq_true, false_and, if_false]
    split
    · refine h.of_linesRead_eq rfl rfl ?_ h.working
      rintro _ ⟨⟩
      exact hopened.again rfl
    · split
      · next hempty =>
        refine h.of_linesRead_eq rfl rfl ?_ h.working
        rintro _ ⟨⟩
        exact (hopened.fill (List.isEmpty_iff.1 hempty)).congr rfl
      · exact h.takeLine hreturn hlegible ho

theorem Tails.write (h : Tails file r) (text : Text) :
    Tails { file with text := file.text ++ text } r where
  bound := h.bound.trans (Text.fedLines_prefix_append file.text text).length_le
  delivered := by
    obtain ⟨more, hmore⟩ := Text.fedLines_prefix_append file.text text
    rw [h.delivered, ← hmore, List.take_append_of_le_length h.bound]
  opened o ho := (h.opened o ho).write text
  working := h.working

theorem Tails.take (h : Tails file r) {entry : Fields}
    (htake : r.follower.take? = some (entry, f')) :
    Tails file { r with follower := f', taken := r.taken ++ [entry] } := by
  obtain ⟨hlines, hopened, hfault, hqueue⟩ := same_of_take? htake
  refine h.of_linesRead_eq hlines (by simp [Reader.delivered, hqueue]) (fun o ho => ?_)
    (hfault.trans h.working)
  exact (h.opened o (hopened ▸ ho)).congr hlines

theorem load_singleton (hjournal : isJournalName file.name = true) :
    History.load [file] = History.loadFile {} file := by
  have hfiles : journalFiles [file] = [file] := by simp [journalFiles, hjournal]
  rw [History.load, hfiles, List.foldlM_cons]
  cases History.loadFile {} file <;> rfl

/-- The history of legible lines can be read. -/
theorem load_of_legible (hjournal : isJournalName file.name = true) (hintact : file.broken = false)
    (hreturn : .char '\r' ∉ file.text) (hlegible : ∀ line ∈ file.text.fedLines, Legible line) :
    ∃ history, History.load [file] = .ok history := by
  rw [← wholeLines_eq_fedLines hreturn] at hlegible
  obtain ⟨entries, hentries⟩ := entriesOf_of_legible hlegible file.name 1
  rw [load_singleton hjournal, History.loadFile, hentries, hintact]
  exact ⟨_, rfl⟩

theorem Tails.load (hjournal : isJournalName file.name = true) (hreturn : .char '\r' ∉ file.text)
    {history : History} (hload : History.load [file] = .ok history) :
    Tails file ⟨history.entries, .ofHistory history, []⟩ := by
  rw [load_singleton hjournal] at hload
  have hhistory := eq_of_loadFile hload
  rw [wholeLines_eq_fedLines hreturn] at hhistory
  have hlinesOf : (Follower.ofHistory history).linesOf file.name = file.text.fedLines.length := by
    simp [hhistory, ofHistory, linesOf]
  constructor
  · exact hlinesOf.le
  · rw [hlinesOf, List.take_length, hhistory]
    simp [Reader.delivered, ofHistory]
  · rintro _ ⟨⟩
  · rfl

/-- At the end of the file everything that it should yield has been delivered. -/
theorem Tails.delivered_of_atEnd (h : Tails file r) (hintact : file.broken = false)
    (hlegible : ∀ line ∈ file.text.fedLines, Legible line) (hend : r.AtEnd [file]) :
    r.delivered = objectsOf file.name file.text := by
  obtain ⟨o, ho, -, hbuffer, hmore⟩ := hend
  have hopened := h.opened o ho
  have hposition : file.text.length ≤ o.position := by
    simpa [hasMore, find?, hopened.name, hintact] using hmore
  have hall : file.text.fedLines.length ≤ r.follower.linesOf file.name := by
    rw [← hopened.lineCount_eq hbuffer hposition, hopened.linesOf]
    exact Nat.le_max_right ..
  rw [h.delivered, List.take_of_length_le hall, entriesIn_fedLines hlegible]

end Tails

/-! ### Coming to the end -/

/-- How much a follower has to do until it is at the end of an open file. -/
def remaining (file : LogFile) (o : Opened) : Nat :=
  2 * (2 * (file.text.length - o.position) + o.buffer.length) + if o.atEnd then 1 else 0

section Settling

variable {file : LogFile} {f : Follower} {o : Opened}

/-- The follower goes on with the file, unless a line fails. -/
theorem takeLine_opened (hfault : (f.takeLine o).fault = none) :
    ∃ o', (f.takeLine o).opened = some o' ∧ o'.buffer = (Text.nextLine o.buffer).2 ∧
      o'.position = o.position ∧ o'.atEnd = o.atEnd := by
  simp only [Follower.takeLine, complete] at hfault ⊢
  split
  · next hwhole =>
    rw [if_pos hwhole] at hfault
    split
    · exact ⟨_, rfl, rfl, rfl, rfl⟩
    · next hread =>
      rw [if_neg hread] at hfault
      split
      · exact ⟨_, rfl, rfl, rfl, rfl⟩
      · next hentry => simp [hentry] at hfault
  · exact ⟨_, rfl, rfl, rfl, rfl⟩

/-- Every step on an open file leaves less to do, up to the end of the file. -/
theorem Tails.remaining_step {r : Reader} (h : Tails file r)
    (hjournal : isJournalName file.name = true) (hintact : file.broken = false)
    (ho : r.follower.opened = some o) (hend : ¬r.AtEnd [file])
    (hfault : (r.follower.step [file]).fault = none) :
    ∃ o', (r.follower.step [file]).opened = some o' ∧ remaining file o' < remaining file o := by
  have hname := (h.opened o ho).name
  have hnewest : newest? [file] = some o.name := by
    simp [newest?, journalFiles, hjournal, hname]
  have hfind : find? [file] o.name = some file := by simp [find?, hname]
  have hmore : o.buffer = [] → o.position < file.text.length := fun hbuffer => by
    refine Nat.lt_of_not_le fun hposition => hend ⟨o, ho, hnewest, hbuffer, ?_⟩
    simpa [hasMore, hfind, hintact] using hposition
  by_cases hatEnd : o.atEnd = true
  · refine ⟨{ o with atEnd := false }, ?_, ?_⟩
    · simp [Follower.step, h.working, ho, hatEnd, hnewest]
    · simp [remaining, hatEnd]
  · by_cases hbuffer : o.buffer = []
    · refine ⟨Follower.fill file.text o, ?_, ?_⟩
      · simp [Follower.step, h.working, ho, hatEnd, hbuffer, hfind, hintact]
      · have hlt := hmore hbuffer
        have hrest : (file.text.drop o.position).isEmpty = false := by simpa using hlt
        simp only [remaining, Follower.fill, hrest, hbuffer, hatEnd, List.length_drop]
        simp only [List.length_nil, Bool.false_eq_true, if_false]
        omega
    · have hstep : r.follower.step [file] = r.follower.takeLine o := by
        simp [Follower.step, h.working, ho, hatEnd, hbuffer]
      rw [hstep] at hfault ⊢
      obtain ⟨o', ho', hbuffer', hposition', hatEnd'⟩ := takeLine_opened hfault
      refine ⟨o', ho', ?_⟩
      have hshorter := Text.length_nextLine o.buffer
      have hpos := List.length_pos_iff.2 hbuffer
      rw [remaining, remaining, hbuffer', hposition', hatEnd']
      omega

/-- However far the program is, it comes to the end of the file while the game is quiet. -/
theorem Tails.exists_atEnd {r : Reader} (h : Tails file r)
    (hjournal : isJournalName file.name = true) (hintact : file.broken = false)
    (hreturn : .char '\r' ∉ file.text) (hlegible : ∀ line ∈ file.text.fedLines, Legible line) :
    ∃ n, ({ r with follower := (Follower.step [file])^[n] r.follower } : Reader).AtEnd [file] := by
  have hstep : ∀ {r : Reader}, Tails file r →
      Tails file { r with follower := r.follower.step [file] } :=
    fun h => h.step hjournal hintact hreturn hlegible
  -- with the file open, by induction on what is left to do
  have hopened : ∀ (k : Nat) (r : Reader) (o : Opened), Tails file r → r.follower.opened = some o →
      remaining file o ≤ k →
      ∃ n, ({ r with follower := (Follower.step [file])^[n] r.follower } : Reader).AtEnd [file] := by
    intro k
    induction k with
    | zero =>
      intro r o h ho hk
      by_contra hnone
      have hend : ¬r.AtEnd [file] := fun hend => hnone ⟨0, hend⟩
      obtain ⟨o', -, hlt⟩ := h.remaining_step hjournal hintact ho hend (hstep h).working
      omega
    | succ k ih =>
      intro r o h ho hk
      by_cases hend : r.AtEnd [file]
      · exact ⟨0, hend⟩
      · obtain ⟨o', ho', hlt⟩ := h.remaining_step hjournal hintact ho hend (hstep h).working
        obtain ⟨n, hn⟩ := ih _ o' (hstep h) ho' (by omega)
        exact ⟨n + 1, hn⟩
  cases ho : r.follower.opened with
  | some o => exact hopened _ r o h ho (le_refl _)
  | none =>
    have hnewest : newest? [file] = some file.name := by simp [newest?, journalFiles, hjournal]
    have ho' : (r.follower.step [file]).opened =
        some { name := file.name, skipped := r.follower.linesOf file.name } := by
      simp [Follower.step, h.working, ho, hnewest, openFile]
    obtain ⟨n, hn⟩ := hopened _ _ _ (hstep h) ho' (le_refl _)
    exact ⟨n + 1, hn⟩

end Settling

/-! ### Runs -/

/-- All that a move does while there is one file that grows. -/
inductive GrowsTo (file : LogFile) (reader : Option Reader) : Move → Scene → Prop where
  | write {text : Text} : .char '\r' ∉ text → GrowsTo file reader (.write file.name text)
      ⟨[{ file with text := file.text ++ text }], reader⟩
  | load {history : History} : reader = none → History.load [file] = .ok history →
      GrowsTo file reader .load ⟨[file], some ⟨history.entries, .ofHistory history, []⟩⟩
  | step {r : Reader} : reader = some r → GrowsTo file reader .step
      ⟨[file], some { r with follower := r.follower.step [file] }⟩
  | restart {r : Reader} : reader = some r → r.follower.fault ≠ none →
      GrowsTo file reader .restart ⟨[file], some { r with follower := r.follower.restart }⟩
  | take {r : Reader} {entry : Fields} {follower : Follower} : reader = some r →
      r.follower.take? = some (entry, follower) → GrowsTo file reader .take
        ⟨[file], some { r with follower, taken := r.taken ++ [entry] }⟩

theorem growsTo_of_growingMove? {file : LogFile} {reader : Option Reader} {move : Move} {s' : Scene}
    (hjournal : isJournalName file.name = true)
    (hintact : (∃ name text, move = .write name text) → file.broken = false)
    (hmove : growingMove? ⟨[file], reader⟩ move = some s') : GrowsTo file reader move s' := by
  have hnewest : newest? [file] = some file.name := by simp [newest?, journalFiles, hjournal]
  cases move with
  | write name text =>
    simp only [growingMove?, hnewest, Option.some.injEq] at hmove
    split at hmove
    · next hwrite =>
      obtain ⟨rfl, hreturn⟩ := hwrite
      cases hmove
      have happend : append file.name text [file] = [{ file with text := file.text ++ text }] := by
        simp [append, find?, hintact ⟨_, _, rfl⟩]
      rw [happend]
      exact .write hreturn
    · cases hmove
  | create name text => cases hmove
  | load =>
    simp only [growingMove?, Scene.move?] at hmove
    split at hmove
    · next history hload =>
      cases hmove
      exact .load rfl hload
    · cases hmove
  | step =>
    obtain ⟨r, hreader, rfl⟩ := Option.map_eq_some_iff.1 hmove
    exact .step hreader
  | restart =>
    simp only [growingMove?, Scene.move?] at hmove
    split at hmove
    · next r =>
      split at hmove
      · cases hmove
      · next hfault =>
        cases hmove
        exact .restart rfl hfault
    · cases hmove
  | take =>
    simp only [growingMove?, Scene.move?] at hmove
    split at hmove
    · next r =>
      obtain ⟨⟨entry, follower⟩, htake, rfl⟩ := Option.map_eq_some_iff.1 hmove
      exact .take rfl htake
    · cases hmove

section Runs

variable {name content : Text} {moves : List Move} {s : Scene}

/-- While the game writes there is one file, which holds all that has been written. -/
theorem GrowingRun.files_eq (hname : isJournalName name = true) (hcontent : .char '\r' ∉ content)
    (run : GrowingRun name content moves s) :
    s.files = [⟨name, content ++ written moves, false⟩] ∧
      .char '\r' ∉ content ++ written moves := by
  induction run with
  | start => exact ⟨by simp [written], by simpa [written] using hcontent⟩
  | @step moves s s' move _ hmove ih =>
    obtain ⟨hfiles, hreturn⟩ := ih
    rcases s with ⟨files, reader⟩
    subst hfiles
    rw [written_append_singleton, ← List.append_assoc, written_singleton]
    cases growsTo_of_growingMove? hname (fun _ => rfl) hmove with
    | write htext => exact ⟨rfl, fun hmem => (List.mem_append.1 hmem).elim hreturn htext⟩
    | _ => exact ⟨by simp, by simpa using hreturn⟩

theorem GrowingRun.tails (hname : isJournalName name = true) (hcontent : .char '\r' ∉ content)
    (run : GrowingRun name content moves s)
    (hlegible : ∀ line ∈ (content ++ written moves).fedLines, Legible line) {r : Reader}
    (hreader : s.reader = some r) : Tails ⟨name, content ++ written moves, false⟩ r := by
  induction run generalizing r with
  | start => cases hreader
  | @step moves s s' move run hmove ih =>
    obtain ⟨hfiles, hreturn⟩ := GrowingRun.files_eq hname hcontent run
    rw [written_append_singleton, ← List.append_assoc, written_singleton] at hlegible ⊢
    -- the lines so far are among those in the end, so they are legible
    have hearlier : ∀ line ∈ (content ++ written moves).fedLines, Legible line := fun line hline =>
      hlegible line ((Text.fedLines_prefix_append _ _).subset hline)
    replace ih := fun {r} => ih (r := r) hearlier
    rcases s with ⟨files, reader⟩
    subst hfiles
    cases growsTo_of_growingMove? hname (fun _ => rfl) hmove with
    | write htext => exact (ih hreader).write _
    | load _ hload =>
      cases hreader
      simpa using Tails.load hname hreturn hload
    | step hr =>
      cases hreader
      simpa using (ih hr).step hname rfl hreturn hearlier
    | restart hr hfault => exact absurd (ih hr).working hfault
    | take hr htake =>
      cases hreader
      simpa using (ih hr).take htake

end Runs

/-- **A file is read as if it had been written at once.** However its text is cut into pieces, and
whenever the program starts and looks: the program can start, no line stops it, it comes to the end
of the file, and at the end it has delivered the JSON objects among the complete lines so far, in
order and each once, with the numbers of their lines. -/
theorem delivered_eq_of_growingRun {name content : Text} {moves : List Move} {s : Scene}
    (hname : isJournalName name = true) (hcontent : .char '\r' ∉ content)
    (run : GrowingRun name content moves s)
    (hlegible : ∀ line ∈ (content ++ written moves).fedLines, Legible line) :
    s.files = [⟨name, content ++ written moves, false⟩] ∧
    (s.reader = none → ∃ s', growingMove? s .load = some s') ∧
    ∀ r, s.reader = some r →
      r.follower.fault = none ∧
      (∃ n, ({ r with follower := (Follower.step s.files)^[n] r.follower } : Reader).AtEnd s.files) ∧
      (r.AtEnd s.files → r.delivered = objectsOf name (content ++ written moves)) := by
  obtain ⟨hfiles, hreturn⟩ := GrowingRun.files_eq hname hcontent run
  refine ⟨hfiles, fun hnone => ?_, fun r hreader => ?_⟩
  · obtain ⟨history, hload⟩ : ∃ history, History.load s.files = .ok history := by
      rw [hfiles]
      exact load_of_legible hname rfl hreturn hlegible
    refine ⟨{ s with reader := some ⟨history.entries, .ofHistory history, []⟩ }, ?_⟩
    simp only [growingMove?, Scene.move?, hnone, hload]
  · have htails := GrowingRun.tails hname hcontent run hlegible hreader
    rw [hfiles]
    exact ⟨htails.working, htails.exists_atEnd hname rfl hreturn hlegible,
      htails.delivered_of_atEnd rfl hlegible⟩

/-- Three lines, of which the second is no JSON and the third has no end yet. -/
def halfWritten : Text := "\x7b\x7d\nno\n\x7b\"a\":"

/-- The program reads as far as it can; then the game ends the third line and begins a further one. -/
def latecomer : List Move :=
  [.step, .step, .step, .step, .step, .write "Journal.1" "1\x7d\n\x7b\x7d", .step, .step, .step]

/-- The file at its end, with the beginning of the further line in hand. -/
def openAtEnd : Opened where
  name := "Journal.1"
  skipped := 2
  position := 16
  pending := "\x7b\x7d"
  lineCount := 3

/-- The program at the end of the file. -/
def caughtUp : Reader where
  historic := [[("id", .text "Journal.1.000001")]]
  follower :=
    { linesRead := [("Journal.1", 3)]
      opened := some openAtEnd
      queue := [[("a", .int 1), ("id", .text "Journal.1.000003")]] }

/-- The program delivers the first line from the history, counts the second one, and delivers the
third one when it has its end. -/
theorem delivered_eq_of_growingRun_halfWritten :
    let moves := .load :: latecomer
    let text := halfWritten ++ written moves
    GrowingRun "Journal.1" halfWritten moves ⟨[⟨"Journal.1", text, false⟩], some caughtUp⟩ ∧
      (∀ line ∈ text.fedLines, Legible line) ∧ caughtUp.AtEnd [⟨"Journal.1", text, false⟩] ∧
      caughtUp.delivered = objectsOf "Journal.1" text := by
  intro moves text
  have hload : History.load [⟨"Journal.1", halfWritten, false⟩] =
      .ok ⟨[[("id", .text "Journal.1.000001")]], [("Journal.1", 2)]⟩ := by
    rw [load_singleton rfl, History.loadFile, wholeLines_eq_fedLines (by decide)]
    rfl
  have hfirst : growingMove? { files := [⟨"Journal.1", halfWritten, false⟩] } .load =
      some ⟨[⟨"Journal.1", halfWritten, false⟩], some ⟨[[("id", .text "Journal.1.000001")]],
        .ofHistory ⟨[[("id", .text "Journal.1.000001")]], [("Journal.1", 2)]⟩, []⟩⟩ := by
    simp only [growingMove?, Scene.move?, hload]
  have run : GrowingRun "Journal.1" halfWritten moves
      ⟨[⟨"Journal.1", text, false⟩], some caughtUp⟩ := by
    refine runs_iff_foldlM.2 ?_
    rw [List.foldlM_cons, hfirst]
    rfl
  have hlegible : ∀ line ∈ text.fedLines, Legible line := by
    have hlines : text.fedLines = ["\x7b\x7d\n", "no\n", "\x7b\"a\":1\x7d\n"] := by decide
    rw [hlines]
    refine List.forall_mem_cons.2 ⟨.inl ⟨_, rfl⟩, List.forall_mem_cons.2 ⟨.inr ⟨_, rfl, rfl⟩, ?_⟩⟩
    exact List.forall_mem_singleton.2 (.inl ⟨_, rfl⟩)
  have hend : caughtUp.AtEnd [⟨"Journal.1", text, false⟩] := ⟨_, rfl, rfl, rfl, rfl⟩
  obtain ⟨-, -, hreader⟩ := delivered_eq_of_growingRun rfl (by decide) run hlegible
  exact ⟨run, hlegible, hend, (hreader caughtUp rfl).2.2 hend⟩

end JournalHerald.Journal

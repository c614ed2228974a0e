import JournalHerald.Proofs.Journal.Growth
import JournalHerald.Proofs.Text.Decoding

/-!
# A file that grows byte by byte

What the game writes may end anywhere, also inside a character. As long as the rest of the character is
missing, the file is not encoded in UTF-8: the program cannot start, and if it has been started before, its
reading fails at the end of the file. It then begins anew, and when the character has been completed, it
reads the file as if all of it had been written at once.

* `StoredScene` is the folder, with the bytes of its files, and the program; `StoredRun` are the states
  that the game and the program lead to, `storedBytes` is what the game wrote;
* `StoredFile.exists_log` says what can be read of bytes that end inside a character, and `map_log_store`
  that to store whole characters is to append text;
* `Endures` is what is kept of the program, of which the reading may have failed;
* `delivered_eq_of_storedRun` is the main result.
-/

namespace JournalHerald.Journal

open Follower

/-! ### What can be read of bytes -/

section Bytes

variable {f : StoredFile} {name text : Text} {content bytes : List UInt8} {cs : List Char}

theorem StoredFile.log_eq {state : Utf8.State} (h : Utf8.readBlock? .between f.content = some (state, text))
    (hreturn : .char '\r' ∉ text) : f.log = ⟨f.name, text, state != .between⟩ := by
  have hreading := Utf8.readBlocks_blocks (by decide : 0 < blockSize) h
  have hlast : text.getLast? ≠ some (.char '\r') := fun hlast => hreturn (List.mem_of_getLast? hlast)
  rw [StoredFile.log, LogFile.ofBytes, hreading]
  exact if_neg fun hcut => hlast hcut.2

theorem StoredFile.log_name (f : StoredFile) : f.log.name = f.name := by
  rw [StoredFile.log, LogFile.ofBytes]
  split <;> rfl

/-- A file of whole characters can be read as a whole. -/
theorem StoredFile.log_encode (name : Text) (cs : List Char) :
    StoredFile.log ⟨name, Utf8.encode cs⟩ = ⟨name, cs.map .char, false⟩ := by
  have hreading := Utf8.readBlocks_blocks (by decide : 0 < blockSize) (Utf8.readBlock?_encode cs)
  rw [StoredFile.log, LogFile.ofBytes, hreading]
  exact if_neg fun hcut => nomatch hcut.1

theorem find?_map_log (files : List StoredFile) (name : Text) :
    find? (files.map StoredFile.log) name = (files.find? fun f => f.name == name).map StoredFile.log := by
  rw [find?, List.find?_map]
  congr 2
  exact funext fun f => congrArg (· == name) f.log_name

/-- To store whole characters behind whole characters is to append the text that they are. -/
theorem map_log_store {files : List StoredFile}
    (hfiles : ∀ f ∈ files, f.name = name → ∃ cs, f.content = Utf8.encode cs) (cs : List Char) :
    (store name (Utf8.encode cs) files).map StoredFile.log =
      append name (cs.map .char) (files.map StoredFile.log) := by
  have hothers : (files.filter fun f => f.name != name).map StoredFile.log =
      (files.map StoredFile.log).filter fun f => f.name != name := by
    rw [List.filter_map]
    congr 2
    exact funext fun f => congrArg (· != name) f.log_name.symm
  rw [store, append, List.map_append, hothers, List.map_singleton, find?_map_log]
  cases hfind : files.find? fun f => f.name == name with
  | none =>
    have hnew := StoredFile.log_encode name cs
    simpa using hnew
  | some f =>
    have hname : f.name = name := by simpa using List.find?_some hfind
    obtain ⟨earlier, hcontent⟩ := hfiles f (List.mem_of_find?_eq_some hfind) hname
    have hlog : f.log = ⟨name, earlier.map .char, false⟩ := by
      rw [← StoredFile.log_encode, ← hcontent, ← hname]
    have hbytes : f.content ++ Utf8.encode cs = Utf8.encode (earlier ++ cs) := by
      rw [hcontent, Utf8.encode_append]
    simp [hlog, hbytes, StoredFile.log_encode]

theorem not_mem_map_char {c : Char} (h : c ∉ cs) : CodePoint.char c ∉ cs.map .char := by
  simpa using h

/-- Of bytes at the beginning of a text its complete characters can be read. -/
theorem StoredFile.exists_log (h : f.content <+: Utf8.encode cs) (hreturn : '\r' ∉ cs) :
    ∃ whole, whole <+: cs ∧
      f.log = ⟨f.name, whole.map .char, decide (f.content ≠ Utf8.encode whole)⟩ := by
  obtain ⟨state, whole, hwhole, hread, hstate⟩ := Utf8.exists_readBlock?_of_prefix h
  refine ⟨whole, hwhole, ?_⟩
  rw [StoredFile.log_eq hread (not_mem_map_char fun hmem => hreturn (hwhole.subset hmem))]
  congr 1
  rw [Bool.eq_iff_iff, bne_iff_ne, decide_eq_true_iff, ne_eq, ne_eq, hstate]

/-- What can be read of a file stays when bytes are written behind it. -/
theorem StoredFile.exists_log_append (h : content ++ bytes <+: Utf8.encode cs) (hreturn : '\r' ∉ cs) :
    ∃ more, (StoredFile.log ⟨name, content ++ bytes⟩).text =
      (StoredFile.log ⟨name, content⟩).text ++ more := by
  obtain ⟨state, whole, hwhole, hread, -⟩ := Utf8.exists_readBlock?_of_prefix h
  have hwhole' : CodePoint.char '\r' ∉ whole.map .char :=
    not_mem_map_char fun hmem => hreturn (hwhole.subset hmem)
  have hsplit := hread
  rw [Utf8.readBlock?_append] at hsplit
  obtain ⟨⟨state', text⟩, hfirst, hsplit⟩ := Option.bind_eq_some_iff.1 hsplit
  obtain ⟨⟨_, more⟩, -, hboth⟩ := Option.map_eq_some_iff.1 hsplit
  have htext : text ++ more = whole.map .char := congrArg Prod.snd hboth
  refine ⟨more, ?_⟩
  rw [StoredFile.log_eq hread hwhole', StoredFile.log_eq hfirst fun hmem => hwhole' ?_]
  · exact htext.symm
  · exact htext ▸ List.mem_append_left _ hmem

end Bytes

/-! ### The game and the program -/

/-- The folder of the journal as it is stored, and the program from its start on. -/
structure StoredScene where
  files : List StoredFile
  reader : Option Reader := none

/-- What happens to the journal as it is stored. -/
inductive StoredMove where
  /-- The game writes bytes at the end of the newest file. -/
  | write (name : Text) (bytes : List UInt8)
  /-- The program does something. -/
  | act (move : Move)

namespace StoredScene

/-- The folder as it can be read, and the program. -/
def scene (s : StoredScene) : Scene :=
  ⟨s.files.map StoredFile.log, s.reader⟩

/-- The state after a move, if the move is possible. -/
def move? (s : StoredScene) : StoredMove → Option StoredScene
  | .write name bytes =>
    if newest? s.scene.files = some name then some { s with files := store name bytes s.files } else none
  | .act (.write _ _) => none
  | .act move => (growingMove? s.scene move).map fun s' => { s with reader := s'.reader }

end StoredScene

/-- The moves lead from a folder in which there is one file to a state. -/
abbrev StoredRun (name : Text) (content : List UInt8) : List StoredMove → StoredScene → Prop :=
  Runs StoredScene.move? { files := [⟨name, content⟩] }

/-- What the game writes. -/
def storedBytes (moves : List StoredMove) : List UInt8 :=
  moves.flatMap fun
    | .write _ bytes => bytes
    | .act _ => []

theorem storedBytes_append_singleton (moves : List StoredMove) (move : StoredMove) :
    storedBytes (moves ++ [move]) = storedBytes moves ++ storedBytes [move] := by
  simp [storedBytes]

theorem storedBytes_write (name : Text) (bytes : List UInt8) : storedBytes [.write name bytes] = bytes :=
  List.append_nil _

theorem storedBytes_act (move : Move) : storedBytes [.act move] = [] :=
  rfl

/-! ### The program -/

/-- The reading may have failed for a while. -/
def Reader.cured (r : Reader) : Reader :=
  { r with follower := { r.follower with fault := none } }

/-- What is kept of a program that reads a file which may end inside a character: what is kept without
that, or the reading has failed there and the file has been closed. -/
structure Endures (file : LogFile) (r : Reader) : Prop where
  tails : Tails file r.cured
  fault : r.follower.fault = none ∨ r.follower.fault = some .undecodable ∧ r.follower.opened = none

section Endures

variable {file : LogFile} {r : Reader}

theorem Reader.cured_eq_self (h : r.follower.fault = none) : r.cured = r := by
  rcases r with ⟨historic, ⟨linesRead, opened, queue, fault⟩, taken⟩
  cases h
  rfl

theorem Tails.endures (h : Tails file r) : Endures file r where
  tails := by rwa [Reader.cured_eq_self h.working]
  fault := .inl h.working

theorem Endures.tails_of_working (h : Endures file r) (hworking : r.follower.fault = none) : Tails file r :=
  Reader.cured_eq_self hworking ▸ h.tails

/-- What is kept of the program is about the text of the file alone. -/
theorem Tails.flagged (h : Tails file r) (broken : Bool) : Tails { file with broken } r where
  bound := h.bound
  delivered := h.delivered
  opened o ho :=
    have hopened := h.opened o ho
    ⟨hopened.name, hopened.position, hopened.seen, hopened.pending, hopened.linesOf⟩
  working := h.working

/-- A file that goes on with something that cannot be read makes a difference only at the end of what can be
read. -/
theorem step_broken (f : Follower) (name text : Text) :
    f.step [⟨name, text, true⟩] = f.step [⟨name, text, false⟩] ∨
      f.step [⟨name, text, true⟩] = { f with opened := none, fault := some .undecodable } := by
  have hnewest : newest? [⟨name, text, true⟩] = newest? [⟨name, text, false⟩] := by
    cases hjournal : isJournalName name <;> simp [newest?, journalFiles, hjournal]
  rw [Follower.step, Follower.step, hnewest]
  split
  · exact .inl rfl
  · exact .inl rfl
  · next o _ _ =>
    split
    · exact .inl rfl
    split
    · by_cases hname : name = o.name
      · by_cases hend : text.length ≤ o.position
        · exact .inr (by simp [find?, hname, hend])
        · exact .inl (by simp [find?, hname, hend])
      · exact .inl (by simp [find?, hname])
    · exact .inl rfl

theorem Endures.step (h : Endures file r) (hjournal : isJournalName file.name = true)
    (hreturn : .char '\r' ∉ file.text) (hlegible : ∀ line ∈ file.text.fedLines, Legible line) :
    Endures file { r with follower := r.follower.step [file] } := by
  obtain hworking | ⟨hfault, hopened⟩ := h.fault
  · have htails := h.tails_of_working hworking
    rcases file with ⟨name, text, _ | _⟩
    · exact (htails.step hjournal rfl hreturn hlegible).endures
    · obtain hsame | hfails := step_broken r.follower name text
      · rw [hsame]
        exact (((htails.flagged false).step hjournal rfl hreturn hlegible).flagged true).endures
      · rw [hfails]
        exact ⟨htails.of_linesRead_eq rfl rfl nofun rfl, .inr ⟨rfl, rfl⟩⟩
  · have hstays : r.follower.step [file] = r.follower := by
      simp [Follower.step, hfault]
    rwa [hstays]

theorem Endures.grow (h : Endures file r) {file' : LogFile} {more : Text} (hname : file'.name = file.name)
    (htext : file'.text = file.text ++ more) : Endures file' r := by
  rcases file' with ⟨_, _, broken⟩
  cases hname
  cases htext
  exact ⟨(h.tails.write more).flagged broken, h.fault⟩

/-- After a failure the file is opened again. -/
theorem Endures.restart (h : Endures file r) (hfault : r.follower.fault ≠ none) :
    Tails file { r with follower := r.follower.restart } := by
  obtain hworking | ⟨-, hopened⟩ := h.fault
  · exact absurd hworking hfault
  · exact h.tails.of_linesRead_eq rfl rfl nofun rfl

/-- The reader, which has begun anew if its reading has failed. -/
def Reader.revived (r : Reader) : Reader :=
  if r.follower.fault = none then r else { r with follower := r.follower.restart }

theorem Endures.tails_revived (h : Endures file r) : Tails file r.revived := by
  rw [Reader.revived]
  split
  · next hworking => exact h.tails_of_working hworking
  · next hfault => exact h.restart hfault

theorem Endures.take (h : Endures file r) {entry : Fields} {f' : Follower}
    (htake : r.follower.take? = some (entry, f')) :
    Endures file { r with follower := f', taken := r.taken ++ [entry] } := by
  obtain ⟨hlines, hopened, hfault, hqueue⟩ := same_of_take? htake
  have hdelivered : ({ r with follower := f', taken := r.taken ++ [entry] } : Reader).cured.delivered =
      r.cured.delivered := by
    simp [Reader.cured, Reader.delivered, hqueue]
  refine ⟨h.tails.of_linesRead_eq hlines hdelivered (fun o ho => ?_) rfl, ?_⟩
  · exact (h.tails.opened o (hopened ▸ ho)).congr hlines
  · rw [hfault, hopened]
    exact h.fault

end Endures

/-! ### Runs -/

/-- All that a move does while there is one file. -/
inductive StoredTo (s : StoredScene) : StoredMove → StoredScene → Prop where
  | write {name : Text} {bytes : List UInt8} : newest? s.scene.files = some name →
      StoredTo s (.write name bytes) { s with files := store name bytes s.files }
  | act {move : Move} {s' : Scene} : (¬∃ name text, move = .write name text) →
      growingMove? s.scene move = some s' → StoredTo s (.act move) { s with reader := s'.reader }

theorem storedTo_of_move? {s s' : StoredScene} {move : StoredMove} (h : s.move? move = some s') :
    StoredTo s move s' := by
  rcases move with ⟨name, bytes⟩ | move
  · simp only [StoredScene.move?, Option.ite_none_right_eq_some] at h
    obtain ⟨hnewest, h⟩ := h
    cases h
    exact .write hnewest
  · cases move with
    | write name text => cases h
    | create name text => cases h
    | _ =>
      obtain ⟨s₁, hmove, rfl⟩ := Option.map_eq_some_iff.1 h
      exact .act nofun hmove

section Runs

variable {name : Text} {content : List UInt8} {moves : List StoredMove} {s : StoredScene} {cs : List Char}

theorem store_singleton (name : Text) (content bytes : List UInt8) :
    store name bytes [⟨name, content⟩] = [⟨name, content ++ bytes⟩] := by
  simp [store]

/-- There is one file, which holds all that has been written. -/
theorem StoredRun.files_eq (hname : isJournalName name = true) (run : StoredRun name content moves s) :
    s.files = [⟨name, content ++ storedBytes moves⟩] := by
  induction run with
  | start => simp [storedBytes]
  | @step moves s s' move _ hmove ih =>
    rw [storedBytes_append_singleton, ← List.append_assoc]
    cases storedTo_of_move? hmove with
    | @write name' bytes hnewest =>
      have hsame : name' = name := by
        rw [StoredScene.scene, ih] at hnewest
        simpa [newest?, journalFiles, StoredFile.log_name, hname, eq_comm] using hnewest
      rw [storedBytes_write, ih, hsame, store_singleton]
    | act _ hact => rw [storedBytes_act, List.append_nil, ← ih]

/-- The lines that can be read are among those of the whole text. -/
theorem legible_log (hname : isJournalName name = true) (hbytes : content <+: Utf8.encode cs)
    (hreturn : '\r' ∉ cs) (hlegible : ∀ line ∈ Text.fedLines (cs.map .char), Legible line) :
    isJournalName (StoredFile.log ⟨name, content⟩).name = true ∧
      .char '\r' ∉ (StoredFile.log ⟨name, content⟩).text ∧
      ∀ line ∈ (StoredFile.log ⟨name, content⟩).text.fedLines, Legible line := by
  obtain ⟨whole, ⟨rest, rfl⟩, hlog⟩ := StoredFile.exists_log (f := ⟨name, content⟩) hbytes hreturn
  rw [hlog]
  refine ⟨hname, not_mem_map_char fun hmem => hreturn (List.mem_append_left _ hmem), fun line hline => ?_⟩
  rw [List.map_append] at hlegible
  exact hlegible line ((Text.fedLines_prefix_append _ _).subset hline)

theorem StoredRun.endures (hname : isJournalName name = true) (run : StoredRun name content moves s)
    (hbytes : content ++ storedBytes moves <+: Utf8.encode cs) (hreturn : '\r' ∉ cs)
    (hlegible : ∀ line ∈ Text.fedLines (cs.map .char), Legible line) {r : Reader}
    (hreader : s.reader = some r) :
    Endures (StoredFile.log ⟨name, content ++ storedBytes moves⟩) r := by
  induction run generalizing r with
  | start => cases hreader
  | @step moves s s' move run hmove ih =>
    have hfiles := StoredRun.files_eq hname run
    rw [storedBytes_append_singleton, ← List.append_assoc] at hbytes ⊢
    have hearlier := (List.prefix_append (content ++ storedBytes moves) (storedBytes [move])).trans hbytes
    replace ih := fun {r} => ih (r := r) hearlier
    cases storedTo_of_move? hmove with
    | @write name' bytes hnewest =>
      rw [storedBytes_write] at hbytes ⊢
      obtain ⟨more, hmore⟩ := StoredFile.exists_log_append hbytes hreturn
      exact (ih hreader).grow (by rw [StoredFile.log_name, StoredFile.log_name]) hmore
    | @act move s₁ hprogram hact =>
      rw [storedBytes_act, List.append_nil]
      rw [StoredScene.scene, hfiles, List.map_singleton] at hact
      generalize hfile : StoredFile.log ⟨name, content ++ storedBytes moves⟩ = file at ih hact ⊢
      obtain ⟨hjournal, hnone, hlines⟩ := legible_log hname hearlier hreturn hlegible
      rw [hfile] at hjournal hnone hlines
      cases growsTo_of_growingMove? hjournal (fun hwrite => absurd hwrite hprogram) hact with
      | write => exact absurd ⟨_, _, rfl⟩ hprogram
      | load _ hload =>
        cases hreader
        exact (Tails.load hjournal hnone hload).endures
      | step hr =>
        cases hreader
        exact (ih hr).step hjournal hnone hlines
      | restart hr hfault =>
        cases hreader
        exact ((ih hr).restart hfault).endures
      | take hr htake =>
        cases hreader
        exact (ih hr).take htake

end Runs

section

variable {file : LogFile}

/-- A file that goes on with something that cannot be read cannot be loaded. -/
theorem broken_eq_false_of_load (hjournal : isJournalName file.name = true) {history : History}
    (hload : History.load [file] = .ok history) : file.broken = false := by
  rw [load_singleton hjournal, History.loadFile] at hload
  cases hbroken : file.broken with
  | false => rfl
  | true =>
    rw [hbroken] at hload
    cases hentries : entriesOf file.name 1 (History.wholeLines file.text) <;>
      · rw [hentries] at hload
        cases hload

/-- The end of a file is reached only if all of it can be read. -/
theorem broken_eq_false_of_atEnd (hjournal : isJournalName file.name = true) {r : Reader}
    (hend : r.AtEnd [file]) : file.broken = false := by
  obtain ⟨o, -, hnewest, -, hmore⟩ := hend
  have hname : file.name = o.name := by simpa [newest?, journalFiles, hjournal] using hnewest
  simp only [hasMore, find?, hname, List.find?_cons, beq_self_eq_true, Bool.or_eq_false_iff] at hmore
  exact hmore.1

end

/-- **A file is read as if it had been written at once, even if it is written byte by byte.** What has been
written by now are some whole characters of the text, and perhaps a part of the next one. Only without
such a part can the program start. No line stops it, but it may have to begin anew after such a part;
it comes to the end of the file as soon as there is no such part, and at the end it has delivered the
JSON objects among the complete lines so far, in order and each once, with the numbers of their lines. -/
theorem delivered_eq_of_storedRun {name : Text} {content : List UInt8} {moves : List StoredMove}
    {s : StoredScene} {cs : List Char} (hname : isJournalName name = true)
    (run : StoredRun name content moves s) (hbytes : content ++ storedBytes moves <+: Utf8.encode cs)
    (hreturn : '\r' ∉ cs) (hlegible : ∀ line ∈ Text.fedLines (cs.map .char), Legible line) :
    ∃ whole, whole <+: cs ∧
      s.scene.files =
        [⟨name, whole.map .char, decide (content ++ storedBytes moves ≠ Utf8.encode whole)⟩] ∧
      (s.reader = none → ((∃ s', s.move? (.act .load) = some s') ↔
        content ++ storedBytes moves = Utf8.encode whole)) ∧
      ∀ r, s.reader = some r →
        (r.follower.fault = none ∨ r.follower.fault = some .undecodable) ∧
        (content ++ storedBytes moves = Utf8.encode whole →
          ∃ n, ({ r.revived with
            follower := (Follower.step s.scene.files)^[n] r.revived.follower } : Reader).AtEnd s.scene.files) ∧
        (r.AtEnd s.scene.files → content ++ storedBytes moves = Utf8.encode whole ∧
          r.delivered = objectsOf name (whole.map .char)) := by
  obtain ⟨whole, hwhole, hlog⟩ :=
    StoredFile.exists_log (f := ⟨name, content ++ storedBytes moves⟩) hbytes hreturn
  obtain ⟨hjournal, hnone, hlines⟩ := legible_log hname hbytes hreturn hlegible
  have hfiles : s.scene.files = [StoredFile.log ⟨name, content ++ storedBytes moves⟩] := by
    rw [StoredScene.scene, StoredRun.files_eq hname run, List.map_singleton]
  generalize hfile : StoredFile.log ⟨name, content ++ storedBytes moves⟩ = file at *
  have hintact : file.broken = false ↔ content ++ storedBytes moves = Utf8.encode whole := by
    rw [hlog, decide_eq_false_iff_not, not_not]
  refine ⟨whole, hwhole, hlog ▸ hfiles, fun hstart => ⟨fun ⟨s', hmove⟩ => ?_, fun heq => ?_⟩,
    fun r hreader => ?_⟩
  · cases storedTo_of_move? hmove with
    | act _ hact =>
      simp only [growingMove?, Scene.move?, hfiles] at hact
      split at hact
      · next hload => exact hintact.1 (broken_eq_false_of_load hjournal hload)
      · cases hact
  · obtain ⟨history, hload⟩ := load_of_legible hjournal (hintact.2 heq) hnone hlines
    have hstart' : s.scene.reader = none := hstart
    simp only [StoredScene.move?, growingMove?, Scene.move?, hfiles, hload, hstart', Option.map_some]
    exact ⟨_, rfl⟩
  · have hendures := StoredRun.endures hname run hbytes hreturn hlegible hreader
    rw [hfile] at hendures
    rw [hfiles]
    refine ⟨hendures.fault.imp_right And.left, fun heq => ?_, fun hend => ?_⟩
    · exact hendures.tails_revived.exists_atEnd hjournal (hintact.2 heq) hnone hlines
    · have hwhole := broken_eq_false_of_atEnd hjournal hend
      obtain ⟨o, ho, -⟩ := id hend
      have hworking : r.follower.fault = none := hendures.fault.resolve_right fun hfault => by
        rw [hfault.2] at ho
        cases ho
      refine ⟨hintact.1 hwhole, ?_⟩
      rw [(hendures.tails_of_working hworking).delivered_of_atEnd hwhole hlines hend, hlog]

/-- The line of an entry with a letter of two bytes. -/
def accented : List UInt8 :=
  Utf8.encode "\x7b\"a\":\"é\"\x7d\n".toList

/-- The program is at the end of the file while only the first byte of the letter has been written. -/
def interrupted : List StoredMove :=
  [.act .load, .write "Journal.1" (accented.take 7), .act .step, .act .step, .act .step, .act .step]

/-- The rest of the line is written, and the program begins anew. -/
def resumed : List StoredMove :=
  interrupted ++ [.write "Journal.1" (accented.drop 7), .act .restart, .act .step, .act .step, .act .step]

/-- Whether the reading has failed after moves from an empty file, and how many entries have been delivered. -/
def outcome? (moves : List StoredMove) : Option (Option ReadFault × Nat) := do
  let s ← moves.foldlM StoredScene.move? { files := [⟨"Journal.1", []⟩] }
  let r ← s.reader
  return (r.follower.fault, r.delivered.length)

example : outcome? interrupted = some (some .undecodable, 0) := by
  decide +kernel

example : outcome? resumed = some (none, 1) := by
  decide +kernel

end JournalHerald.Journal

import JournalHerald.Proofs.Journal.Delivery
import JournalHerald.Proofs.Text.Numerals
import JournalHerald.Proofs.Value.Fields
import Mathlib.Data.Set.Function

/-!
# The ids of the delivered entries

An id names a file and a line of it. No id is delivered twice, and those of one file are delivered in the
order of the lines, whatever happens to the folder: between any two things that the program does, files may be
written, cut, replaced, begun or removed, and any of them may become the newest. What carries this is the
number of lines that the follower notes for each file. It bounds the lines that have been delivered, and is
all that counts when a file is opened again.

* `sourceName_entryId` and `lineNumber_entryId` read an id, `entryId_faithful` says that it is a code of the two;
* `Turn` is a move of the program in a folder of any content;
* `Placed` says which lines some entries come from, `Tracks` what is kept of a reader;
* `ids_distinct` is the main result.
-/

namespace JournalHerald.Journal

open Follower

/-! ### Ids -/

/-- The number of the line in an id: the digits behind the last dot. -/
def lineNumber (id : Text) : Nat :=
  Text.ofDigits ((id.reverse.takeWhile (· != .char '.')).reverse.map fun c => c.toNat - 48)

/-- The id of an entry. -/
def idOf? (entry : Fields) : Option Text :=
  (entry.get? idField).bind Value.text?

section Ids

variable {file : Text} {number : Nat}

theorem dot_notMem_zeroPadded (width n : Nat) : .char '.' ∉ Text.zeroPadded width n := by
  intro h
  rcases List.mem_append.1 h with h | h
  · cases List.eq_of_mem_replicate h
  · have := Text.isAsciiDigit_of_mem_natText h
    revert this
    decide

theorem entryId_eq (file : Text) (number : Nat) :
    entryId file number = baseName file ++ .char '.' :: Text.zeroPadded 6 number := by
  rw [entryId, Text.padded, if_neg (Int.not_lt.2 (Int.natCast_nonneg number)), List.append_assoc]
  rfl

theorem takeWhile_reverse_entryId (file : Text) (number : Nat) :
    (entryId file number).reverse.takeWhile (· != .char '.') = (Text.zeroPadded 6 number).reverse ∧
    (entryId file number).reverse.dropWhile (· != .char '.') = .char '.' :: (baseName file).reverse := by
  have hdigits : ∀ c ∈ (Text.zeroPadded 6 number).reverse, (c != .char '.') = true := by
    intro c hc
    rw [List.mem_reverse] at hc
    exact bne_iff_ne.2 fun heq => dot_notMem_zeroPadded 6 number (heq ▸ hc)
  rw [entryId_eq, List.reverse_append, List.reverse_cons, List.append_assoc]
  rw [List.takeWhile_append_of_pos hdigits, List.dropWhile_append_of_pos hdigits]
  simp

@[simp] theorem sourceName_entryId (file : Text) (number : Nat) :
    sourceName (entryId file number) = baseName file := by
  rw [sourceName, (takeWhile_reverse_entryId file number).2]
  exact List.reverse_reverse _

@[simp] theorem lineNumber_entryId (file : Text) (number : Nat) : lineNumber (entryId file number) = number := by
  rw [lineNumber, (takeWhile_reverse_entryId file number).1, List.reverse_reverse]
  exact Text.ofDigits_zeroPadded 6 number

/-- The file that an entry comes from is the one in its id. -/
theorem sourceOf_set (entry : Fields) (id : Text) : sourceOf (entry.set idField (.text id)) = sourceName id := by
  rw [sourceOf, Fields.get?_set]

/-- **An id tells the file and the line, and nothing else.** The name of the file is read back from it and from
every entry that bears it, and two ids are the same only for the same line of files with the same name. -/
theorem entryId_faithful (p q : Text) (n m : Nat) (entry : Fields) :
    sourceName (entryId p n) = baseName p ∧
    sourceOf (entry.set idField (.text (entryId p n))) = baseName p ∧
    (entryId p n = entryId q m ↔ baseName p = baseName q ∧ n = m) := by
  have hsource := sourceName_entryId p n
  refine ⟨hsource, (sourceOf_set entry _).trans hsource, fun h => ?_, fun h => ?_⟩
  · constructor
    · calc baseName p = sourceName (entryId p n) := hsource.symm
        _ = sourceName (entryId q m) := congrArg sourceName h
        _ = baseName q := sourceName_entryId q m
    · calc n = lineNumber (entryId p n) := (lineNumber_entryId p n).symm
        _ = lineNumber (entryId q m) := congrArg lineNumber h
        _ = m := lineNumber_entryId q m
  · obtain ⟨hname, rfl⟩ := h
    rw [entryId_eq, entryId_eq, hname]

theorem idOf?_of_entryAt? {line : Text} {entry : Fields} (h : entryAt? file number line = some entry) :
    idOf? entry = some (entryId file number) := by
  rw [entryAt?, entryOf] at h
  cases hparse : Json.parse line with
  | error error =>
    rw [hparse] at h
    cases hgrammar : error.fault.isSyntax <;> simp [hgrammar, Except.toOption] at h
  | ok v =>
    rw [hparse] at h
    cases v with
    | object fields =>
      cases h
      rw [idOf?, Fields.get?_set]
      rfl
    | _ => cases h

end Ids

/-! ### Lines in order -/

/-- The entries are those in these lines of files, and the lines of each file are in order. -/
structure Placed (entries : List Fields) (places : List (Text × Nat)) : Prop where
  ids : entries.map idOf? = places.map fun p => some (entryId p.1 p.2)
  ordered : places.Pairwise fun p q => p.1 = q.1 → p.2 < q.2

section Placed

variable {entries more : List Fields} {places others : List (Text × Nat)} {file : Text} {count : Nat}

theorem placed_nil : Placed [] [] where
  ids := rfl
  ordered := .nil

theorem Placed.append (h : Placed entries places) (hmore : Placed more others)
    (hbelow : ∀ p ∈ places, ∀ q ∈ others, p.1 = q.1 → p.2 < q.2) :
    Placed (entries ++ more) (places ++ others) where
  ids := by rw [List.map_append, List.map_append, h.ids, hmore.ids]
  ordered := List.pairwise_append.2 ⟨h.ordered, hmore.ordered, hbelow⟩

/-- There is at most one entry in a line. -/
theorem exists_placed_entryAt? (file : Text) (number : Nat) (line : Text) :
    ∃ places, Placed (entryAt? file number line).toList places ∧ ∀ p ∈ places, p = (file, number) := by
  cases h : entryAt? file number line with
  | none => exact ⟨[], placed_nil, by simp⟩
  | some entry =>
    refine ⟨[(file, number)], ⟨?_, List.pairwise_singleton _ _⟩, by simp⟩
    simp [idOf?_of_entryAt? h]

/-- The entries in a line behind all others of its file are put behind the other entries. -/
theorem Placed.concat (h : Placed entries places) (hbound : ∀ p ∈ places, p.1 = file → p.2 ≤ count) (line : Text) :
    ∃ others, Placed (entries ++ (entryAt? file (count + 1) line).toList) (places ++ others) ∧
      ∀ p ∈ others, p = (file, count + 1) := by
  obtain ⟨others, hothers, heach⟩ := exists_placed_entryAt? file (count + 1) line
  refine ⟨others, h.append hothers fun p hp q hq hname => ?_, heach⟩
  cases heach q hq
  exact Nat.lt_succ_of_le (hbound p hp hname)

/-- The entries in the lines of a file are in order. -/
theorem exists_placed_entriesIn (file : Text) (lines : List Text) :
    ∃ places, Placed (entriesIn file lines) places ∧ ∀ p ∈ places, p.1 = file ∧ p.2 ≤ lines.length := by
  induction lines using List.reverseRecOn with
  | nil => exact ⟨[], placed_nil, by simp⟩
  | append_singleton lines line ih =>
    obtain ⟨places, hplaced, hplaces⟩ := ih
    obtain ⟨others, hmore, hothers⟩ := hplaced.concat (fun p hp _ => (hplaces p hp).2) line
    rw [entriesIn_append_singleton, List.length_append, List.length_singleton]
    refine ⟨places ++ others, hmore, List.forall_mem_append.2 ⟨fun p hp => ?_, fun p hp => ?_⟩⟩
    · exact ⟨(hplaces p hp).1, Nat.le_succ_of_le (hplaces p hp).2⟩
    · cases hothers p hp
      exact ⟨rfl, Nat.le_refl _⟩

/-- The entries in different files are in order. -/
theorem exists_placed_flatMap {files : List LogFile} (hdistinct : (files.map LogFile.name).Nodup) :
    ∃ places,
      Placed (files.flatMap fun file => entriesIn file.name (History.wholeLines file.text)) places ∧
      ∀ p ∈ places, ∃ file ∈ files, p.1 = file.name ∧ p.2 ≤ (History.wholeLines file.text).length := by
  induction files with
  | nil => exact ⟨[], placed_nil, by simp⟩
  | cons file files ih =>
    obtain ⟨hnew, hdistinct⟩ := List.nodup_cons.1 hdistinct
    obtain ⟨others, hothers, hplaces⟩ := ih hdistinct
    obtain ⟨places, hfirst, heach⟩ := exists_placed_entriesIn file.name (History.wholeLines file.text)
    refine ⟨places ++ others, hfirst.append hothers ?_, ?_⟩
    · intro p hp q hq hname
      obtain ⟨other, hother, hq', -⟩ := hplaces q hq
      rw [(heach p hp).1, hq'] at hname
      exact absurd (hname ▸ List.mem_map_of_mem hother) hnew
    · refine List.forall_mem_append.2 ⟨fun p hp => ⟨file, by simp, heach p hp⟩, fun p hp => ?_⟩
      obtain ⟨other, hother, hp'⟩ := hplaces p hp
      exact ⟨other, List.mem_cons_of_mem _ hother, hp'⟩

end Placed

/-! ### The program in a changing folder -/

/-- What the program does, in the folder as it is at that time. -/
structure Turn where
  /-- The files in the order of their last changes. -/
  files : List LogFile
  distinct : (files.map LogFile.name).Nodup
  move : Move

/-- The reader after a turn, if the move is possible. A move of the game changes nothing about the reader: what
the folder is like is told by each turn. -/
def turn? (reader : Option Reader) (turn : Turn) : Option (Option Reader) :=
  (Scene.move? { files := turn.files, reader } turn.move).map Scene.reader

/-- The names of the journal files that there have ever been. -/
def journalNames (turns : List Turn) : Set Text :=
  { name | ∃ turn ∈ turns, name ∈ (journalFiles turn.files).map LogFile.name }

/-- What is kept of a reader: no line has been delivered behind those that have been noted of its file. -/
structure Tracks (names : Set Text) (r : Reader) : Prop where
  placed : ∃ places, Placed r.delivered places ∧
    ∀ p ∈ places, p.1 ∈ names ∧ p.2 ≤ r.follower.linesOf p.1
  opened : ∀ o, r.follower.opened = some o →
    o.name ∈ names ∧ r.follower.linesOf o.name = max o.skipped o.lineCount

section Tracks

variable {names names' : Set Text} {r r' : Reader} {files : List LogFile} {o : Opened}

theorem Tracks.mono (h : Tracks names r) (hnames : names ⊆ names') : Tracks names' r where
  placed := by
    obtain ⟨places, hplaced, hplaces⟩ := h.placed
    exact ⟨places, hplaced, fun p hp => ⟨hnames (hplaces p hp).1, (hplaces p hp).2⟩⟩
  opened o ho := ⟨hnames (h.opened o ho).1, (h.opened o ho).2⟩

/-- A change that neither notes a line nor delivers anything. -/
theorem Tracks.of_linesRead_eq (h : Tracks names r) (hlines : r'.follower.linesRead = r.follower.linesRead)
    (hdelivered : r'.delivered = r.delivered)
    (hopened : ∀ o, r'.follower.opened = some o →
      o.name ∈ names ∧ r.follower.linesOf o.name = max o.skipped o.lineCount) : Tracks names r' where
  placed := by
    obtain ⟨places, hplaced, hplaces⟩ := h.placed
    refine ⟨places, hdelivered ▸ hplaced, fun p hp => ⟨(hplaces p hp).1, ?_⟩⟩
    rw [linesOf_congr hlines]
    exact (hplaces p hp).2
  opened o ho := by
    rw [linesOf_congr hlines]
    exact hopened o ho

/-- A change that notes one more line of a file and delivers its entry. -/
theorem Tracks.of_linesRead_eq_note (h : Tracks names r) {name : Text} {count : Nat} (line : Text) (hname : name ∈ names)
    (hcount : r.follower.linesOf name = count)
    (hlines : r'.follower.linesRead = note name (count + 1) r.follower.linesRead)
    (hdelivered : r'.delivered = r.delivered ++ (entryAt? name (count + 1) line).toList)
    (hopened : ∀ o, r'.follower.opened = some o →
      o.name ∈ names ∧ r'.follower.linesOf o.name = max o.skipped o.lineCount) : Tracks names r' where
  placed := by
    obtain ⟨places, hplaced, hplaces⟩ := h.placed
    have hbound : ∀ p ∈ places, p.1 = name → p.2 ≤ count := by
      rintro p hp rfl
      exact (hplaces p hp).2.trans hcount.le
    obtain ⟨others, hmore, hothers⟩ := hplaced.concat hbound line
    refine ⟨places ++ others, hdelivered ▸ hmore, List.forall_mem_append.2 ⟨fun p hp => ?_, fun p hp => ?_⟩⟩
    · refine ⟨(hplaces p hp).1, ?_⟩
      by_cases hp' : p.1 = name
      · rw [hp', linesOf_note hlines]
        exact Nat.le_succ_of_le (hbound p hp hp')
      · rw [linesOf_note_of_ne hlines hp']
        exact (hplaces p hp).2
    · cases hothers p hp
      exact ⟨hname, (linesOf_note hlines).ge⟩
  opened := hopened

/-- A line of the open file is completed. -/
theorem Tracks.complete (h : Tracks names r) (ho : o.name ∈ names)
    (hlines : r.follower.linesOf o.name = max o.skipped o.lineCount) (line : Text) :
    Tracks names { r with follower := r.follower.complete line o } := by
  unfold Follower.complete
  by_cases hskip : o.lineCount + 1 ≤ o.skipped
  · -- the line was read before the file was opened
    simp only [if_pos hskip]
    refine h.of_linesRead_eq rfl rfl ?_
    rintro _ ⟨⟩
    refine ⟨ho, hlines.trans ?_⟩
    show max o.skipped o.lineCount = max o.skipped (o.lineCount + 1)
    omega
  · simp only [if_neg hskip]
    rw [Nat.max_eq_right (by omega)] at hlines
    cases hentry : entryOf o.name (o.lineCount + 1) line with
    | error fault =>
      refine h.of_linesRead_eq_note line ho hlines rfl ?_ (by rintro _ ⟨⟩)
      simp [Reader.delivered, entryAt?, hentry, Except.toOption]
    | ok entry =>
      refine h.of_linesRead_eq_note line ho hlines rfl ?_ ?_
      · simp [Reader.delivered, entryAt?, hentry, Except.toOption]
      · rintro _ ⟨⟩
        refine ⟨ho, (linesOf_note rfl).trans ?_⟩
        show o.lineCount + 1 = max o.skipped (o.lineCount + 1)
        omega

theorem Tracks.step (h : Tracks names r) (hfiles : ∀ name ∈ (journalFiles files).map LogFile.name, name ∈ names) :
    Tracks names { r with follower := r.follower.step files } := by
  unfold Follower.step
  split
  · exact h
  · split
    · next name hnewest =>
      obtain ⟨file, hfile, hname⟩ := Option.map_eq_some_iff.1 hnewest
      refine h.of_linesRead_eq rfl rfl ?_
      rintro _ ⟨⟩
      refine ⟨hfiles _ (List.mem_map.2 ⟨file, List.mem_of_getLast? hfile, hname⟩), ?_⟩
      exact (Nat.max_eq_left (Nat.zero_le _)).symm
    · exact h
  · next o hfault ho =>
    obtain ⟨hname, hlines⟩ := h.opened o ho
    -- whatever else is done, the numbers of the open file stay as they are
    have hopened : ∀ {o' : Opened}, o'.name = o.name → o'.skipped = o.skipped → o'.lineCount = o.lineCount →
        o'.name ∈ names ∧ r.follower.linesOf o'.name = max o'.skipped o'.lineCount := by
      intro o' hname' hskipped hcount
      rw [hname', hskipped, hcount]
      exact ⟨hname, hlines⟩
    split
    · split
      · refine h.of_linesRead_eq rfl rfl ?_
        rintro _ ⟨⟩
        exact hopened rfl rfl rfl
      · exact h.of_linesRead_eq rfl rfl (by rintro _ ⟨⟩)
    split
    · split
      · split
        · exact h.of_linesRead_eq rfl rfl (by rintro _ ⟨⟩)
        · refine h.of_linesRead_eq rfl rfl ?_
          rintro _ ⟨⟩
          exact hopened rfl rfl rfl
      · refine h.of_linesRead_eq rfl rfl ?_
        rintro _ ⟨⟩
        exact hopened rfl rfl rfl
    · unfold Follower.takeLine
      dsimp only
      split
      · refine Tracks.complete h ?_ ?_ _
        · exact (hopened rfl rfl rfl).1
        · exact (hopened rfl rfl rfl).2
      · refine h.of_linesRead_eq rfl rfl ?_
        rintro _ ⟨⟩
        exact hopened rfl rfl rfl

/-- All lines that the history holds have been noted. -/
theorem Tracks.load (hdistinct : (files.map LogFile.name).Nodup) {history : History}
    (h : History.load files = .ok history) :
    Tracks { name | name ∈ (journalFiles files).map LogFile.name } ⟨history.entries, .ofHistory history, []⟩ where
  placed := by
    have hjournal : ((journalFiles files).map LogFile.name).Nodup :=
      hdistinct.sublist (List.filter_sublist.map _)
    obtain ⟨places, hplaced, hplaces⟩ := exists_placed_flatMap hjournal
    have hdelivered : Reader.delivered ⟨history.entries, .ofHistory history, []⟩ = (journalFiles files).flatMap
        fun file => entriesIn file.name (History.wholeLines file.text) := by
      rw [eq_of_foldlM_loadFile h]
      simp [Reader.delivered, Follower.ofHistory]
    refine ⟨places, hdelivered ▸ hplaced, fun p hp => ?_⟩
    obtain ⟨file, hfile, hname, hle⟩ := hplaces p hp
    refine ⟨List.mem_map.2 ⟨file, hfile, hname.symm⟩, ?_⟩
    rw [hname, linesOf_of_load h, find?_of_mem hjournal hfile]
    exact hle
  opened _ ho := by cases ho

theorem Tracks.restart (h : Tracks names r) : Tracks names { r with follower := r.follower.restart } :=
  h.of_linesRead_eq rfl rfl (by rintro _ ⟨⟩)

theorem Tracks.take (h : Tracks names r) {entry : Fields} {follower : Follower}
    (htake : r.follower.take? = some (entry, follower)) :
    Tracks names { r with follower, taken := r.taken ++ [entry] } := by
  obtain ⟨hlines, hopened, -, hqueue⟩ := same_of_take? htake
  exact h.of_linesRead_eq hlines (by simp [Reader.delivered, hqueue]) fun o ho => h.opened o (hopened ▸ ho)

/-- A turn keeps track of what has been delivered. -/
theorem Tracks.turn {reader : Option Reader} {turn : Turn} (h : ∀ r, reader = some r → Tracks names r)
    (hfiles : ∀ name ∈ (journalFiles turn.files).map LogFile.name, name ∈ names)
    (hturn : turn? reader turn = some (some r)) : Tracks names r := by
  obtain ⟨s, hmove, hr⟩ := Option.map_eq_some_iff.1 hturn
  cases hm : turn.move with
  | write name text =>
    simp only [hm, Scene.move?, Option.ite_none_right_eq_some, Option.some.injEq] at hmove
    obtain ⟨-, rfl⟩ := hmove
    exact h r hr
  | create name text =>
    simp only [hm, Scene.move?, Option.ite_none_right_eq_some, Option.some.injEq] at hmove
    obtain ⟨-, rfl⟩ := hmove
    exact h r hr
  | load =>
    simp only [hm, Scene.move?] at hmove
    split at hmove
    · next hload =>
      cases hmove
      cases hr
      exact (Tracks.load turn.distinct hload).mono hfiles
    · cases hmove
  | step =>
    simp only [hm, Scene.move?] at hmove
    obtain ⟨r₀, hr₀, rfl⟩ := Option.map_eq_some_iff.1 hmove
    cases hr
    exact (h r₀ hr₀).step hfiles
  | restart =>
    simp only [hm, Scene.move?] at hmove
    split at hmove
    · split at hmove
      · cases hmove
      · cases hmove
        cases hr
        exact (h _ rfl).restart
    · cases hmove
  | take =>
    simp only [hm, Scene.move?] at hmove
    split at hmove
    · obtain ⟨⟨entry, follower⟩, htake, rfl⟩ := Option.map_eq_some_iff.1 hmove
      cases hr
      exact (h _ rfl).take htake
    · cases hmove

end Tracks

theorem journalNames_append (turns later : List Turn) :
    journalNames (turns ++ later) = journalNames turns ∪ journalNames later := by
  ext name
  simp [journalNames, or_and_right, exists_or]

/-- What has been delivered is kept track of in every run. -/
theorem tracks_of_runs {turns : List Turn} {reader : Option Reader} {r : Reader}
    (run : Runs turn? none turns reader) (hreader : reader = some r) : Tracks (journalNames turns) r := by
  induction run generalizing r with
  | start => cases hreader
  | @step turns reader₀ _ turn _ hturn ih =>
    rw [journalNames_append]
    refine Tracks.turn (fun r₀ hr₀ => (ih hr₀).mono Set.subset_union_left) (fun name hname => ?_) (hreader ▸ hturn)
    exact Set.mem_union_right _ ⟨turn, by simp, hname⟩

/-- The ids of the entries that a reader has delivered, the first one first. -/
def Reader.ids (r : Reader) : List Text :=
  r.delivered.filterMap idOf?

/-- **Every delivered entry has an id, no two have the same one, and those of a file are in the order of
its lines.** -/
theorem ids_distinct {turns : List Turn} {r : Reader} (run : Runs turn? none turns (some r))
    (hbase : Set.InjOn baseName (journalNames turns)) :
    r.ids.length = r.delivered.length ∧ r.ids.Nodup ∧
      r.ids.Pairwise fun id later => sourceName id = sourceName later → lineNumber id < lineNumber later := by
  obtain ⟨places, hplaced, hplaces⟩ := (tracks_of_runs run rfl).placed
  have hids : r.ids = places.map fun p => entryId p.1 p.2 := by
    have hfilter : r.ids = (r.delivered.map idOf?).filterMap id := by
      rw [List.filterMap_map]
      rfl
    rw [hfilter, hplaced.ids, List.filterMap_map, ← List.filterMap_eq_map]
    rfl
  have hordered : r.ids.Pairwise fun id later =>
      sourceName id = sourceName later → lineNumber id < lineNumber later := by
    rw [hids, List.pairwise_map]
    refine hplaced.ordered.imp_of_mem fun {p q} hp hq hlt hsource => ?_
    rw [sourceName_entryId, sourceName_entryId] at hsource
    rw [lineNumber_entryId, lineNumber_entryId]
    exact hlt (hbase (hplaces p hp).1 (hplaces q hq).1 hsource)
  refine ⟨?_, ?_, hordered⟩
  · have hlength := congrArg List.length hplaced.ids
    rw [List.length_map, List.length_map] at hlength
    rw [hids, List.length_map, hlength]
  · exact hordered.imp fun hlt heq => absurd (hlt (congrArg sourceName heq)) (heq ▸ Nat.lt_irrefl _)

/-- Two files become the newest one in turn. One of them grows meanwhile, at last by a line in two pieces. -/
def switching : List Turn :=
  let a (text : Text) : LogFile := ⟨"Journal.a", text, false⟩
  let b : LogFile := ⟨"Journal.b", "\x7b\x7d\n", false⟩
  let line : Text := "\x7b\x7d\n"
  [⟨[a line], by decide, .load⟩] ++
    List.replicate 5 ⟨[b, a (line ++ line)], by decide, .step⟩ ++
    List.replicate 4 ⟨[a (line ++ line), b], by decide, .step⟩ ++
    List.replicate 8 ⟨[b, a (line ++ line ++ "\x7b")], by decide, .step⟩ ++
    List.replicate 3 ⟨[b, a (line ++ line ++ line)], by decide, .step⟩

theorem ids_distinct_switching : ∃ r, Runs turn? none switching (some r) ∧
    r.ids = ["Journal.a.000001", "Journal.a.000002", "Journal.b.000001", "Journal.a.000003"] ∧
    r.ids.length = r.delivered.length ∧ r.ids.Nodup ∧
    r.ids.Pairwise fun id later => sourceName id = sourceName later → lineNumber id < lineNumber later := by
  have hresult : (switching.foldlM turn? none).join.map Reader.ids =
      some (["Journal.a.000001", "Journal.a.000002", "Journal.b.000001", "Journal.a.000003"] : List Text) := by
    decide +kernel
  have hnames : ∀ turn ∈ switching, ∀ name ∈ (journalFiles turn.files).map LogFile.name, baseName name = name := by
    decide +kernel
  obtain ⟨r, hr, hids⟩ := Option.map_eq_some_iff.1 hresult
  have run : Runs turn? none switching (some r) := runs_iff_foldlM.2 (Option.join_eq_some_iff.1 hr)
  refine ⟨r, run, hids, ids_distinct run ?_⟩
  rintro name ⟨turn, hturn, hname⟩ other ⟨turn', hturn', hother⟩ hbase
  rw [← hnames turn hturn name hname, hbase, hnames turn' hturn' other hother]

end JournalHerald.Journal

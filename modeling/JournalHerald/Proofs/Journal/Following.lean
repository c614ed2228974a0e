import JournalHerald.Proofs.Journal.Scene

/-!
# Following a file

The follower of the journal has a file open, of which it has read some text. What it has read is cut
into lines up to some place, and what is behind that place is in its buffer. This stays so, whatever
the follower does and whatever is written into the file, because both of them deal with whole lines.

* `linesOf_note` and `linesOf_note_of_ne` are about the number of lines read of a file;
* `Reads` is what is kept of a file while it is open;
* `StepTo` tells all that a step of the follower can do.
-/

namespace JournalHerald.Journal

open Follower

/-! ### The numbers of lines -/

section

variable {f f' : Follower} {name other : Text} {count : Nat}

theorem linesOf_congr (h : f'.linesRead = f.linesRead) (name : Text) :
    f'.linesOf name = f.linesOf name := by
  rw [linesOf, linesOf, h]

theorem linesOf_note (h : f'.linesRead = note name count f.linesRead) :
    f'.linesOf name = count := by
  have hothers : (f.linesRead.filter fun n => n.1 != name).find? (fun n => n.1 == name) = none :=
    List.find?_eq_none.2 fun n hn => by simpa using (List.mem_filter.1 hn).2
  simp [linesOf, h, note, hothers]

theorem linesOf_note_of_ne (h : f'.linesRead = note name count f.linesRead) (hne : other ≠ name) :
    f'.linesOf other = f.linesOf other := by
  have hothers : (f.linesRead.filter fun n => n.1 != name).find? (fun n => n.1 == other) =
      f.linesRead.find? fun n => n.1 == other := by
    rw [List.find?_filter]
    congr 1
    funext n
    by_cases hn : n.1 = other <;> simp [hn, hne]
  have hlast : [(name, count)].find? (fun n => n.1 == other) = none := by simp [hne.symm]
  rw [linesOf, linesOf, h, note, List.find?_append, hothers, hlast, Option.or_none]

end

/-! ### A file that is being read -/

/-- A follower reads a file. The lines of the file behind those that are completed are in the
buffer, as far as the file has been read. -/
structure Reads (f : Follower) (o : Opened) (file : LogFile) : Prop where
  name : file.name = o.name
  position : o.position ≤ file.text.length
  seen : Text.Ended (file.text.take o.position)
  suffix : o.buffer <:+ file.text.take o.position
  pending : o.pending = []
  count : o.lineCount ≤ (Text.lines (file.text.take o.position)).length
  lines : (Text.lines (file.text.take o.position)).drop o.lineCount = Text.lines o.buffer
  empty : o.atEnd = true → o.buffer = []
  linesOf : f.linesOf o.name = max o.skipped o.lineCount

section Reads

variable {f f' : Follower} {o : Opened} {file : LogFile} {text : Text}

theorem Reads.opened (hname : file.name = o.name) (hskipped : o.skipped = f.linesOf o.name)
    (hposition : o.position = 0) (hbuffer : o.buffer = []) (hpending : o.pending = [])
    (hcount : o.lineCount = 0) : Reads f o file where
  name := hname
  position := by simp [hposition]
  seen := by simp [hposition, Text.ended_nil]
  suffix := by simp [hbuffer]
  pending := hpending
  count := by simp [hcount]
  lines := by simp [hposition, hbuffer]
  empty _ := hbuffer
  linesOf := by simp [hskipped, hcount]

theorem Reads.congr (h : Reads f o file) (hlines : f'.linesRead = f.linesRead) :
    Reads f' o file :=
  { h with linesOf := (linesOf_congr hlines _).trans h.linesOf }

theorem Reads.again (h : Reads f o file) (hlines : f'.linesRead = f.linesRead) :
    Reads f' { o with atEnd := false } file where
  name := h.name
  position := h.position
  seen := h.seen
  suffix := h.suffix
  pending := h.pending
  count := h.count
  lines := h.lines
  empty hend := by cases hend
  linesOf := (linesOf_congr hlines _).trans h.linesOf

/-- With nothing in the buffer, all lines have been completed as far as the file has been read. -/
theorem Reads.lineCount_eq (h : Reads f o file) (hbuffer : o.buffer = []) :
    o.lineCount = (Text.lines (file.text.take o.position)).length := by
  have hlines := h.lines
  rw [hbuffer, Text.lines_nil, List.drop_eq_nil_iff] at hlines
  exact Nat.le_antisymm h.count hlines

/-- At the end of the file all its lines have been read. -/
theorem Reads.length_le (h : Reads f o file) (hbuffer : o.buffer = [])
    (hend : file.text.length ≤ o.position) :
    (Text.lines file.text).length ≤ f.linesOf file.name := by
  have hcount := h.lineCount_eq hbuffer
  rw [List.take_of_length_le hend] at hcount
  rw [h.name, h.linesOf, ← hcount]
  exact Nat.le_max_right ..

theorem Reads.fill (h : Reads f o file) (hended : file.text.Ended) (hbuffer : o.buffer = [])
    (hlines : f'.linesRead = f.linesRead) : Reads f' (fill file.text o) file := by
  have hposition : o.position + (file.text.drop o.position).length = file.text.length := by
    rw [List.length_drop]
    have := h.position
    omega
  have hall : file.text.take (o.position + (file.text.drop o.position).length) = file.text := by
    rw [hposition, List.take_length]
  have hsplit : Text.lines file.text =
      Text.lines (file.text.take o.position) ++ Text.lines (file.text.drop o.position) := by
    rw [← Text.lines_append h.seen, List.take_append_drop]
  constructor
  · exact h.name
  · exact hposition.le
  · simpa only [Follower.fill, hall] using hended
  · simpa only [Follower.fill, hall] using List.drop_suffix _ _
  · exact h.pending
  · simp only [Follower.fill, hall, hsplit, h.lineCount_eq hbuffer, List.length_append]
    exact Nat.le_add_right ..
  · simp only [Follower.fill, hall, hsplit, h.lineCount_eq hbuffer, List.drop_left]
  · exact fun hend => List.isEmpty_iff.1 hend
  · exact (linesOf_congr hlines _).trans h.linesOf

theorem Reads.write (h : Reads f o file) (text : Text) :
    Reads f o { file with text := file.text ++ text } := by
  have htake : (file.text ++ text).take o.position = file.text.take o.position :=
    List.take_append_of_le_length h.position
  constructor
  · exact h.name
  · simp only [List.length_append]
    exact h.position.trans (Nat.le_add_right ..)
  · simpa only [htake] using h.seen
  · simpa only [htake] using h.suffix
  · exact h.pending
  · simpa only [htake] using h.count
  · simpa only [htake] using h.lines
  · exact h.empty
  · exact h.linesOf

/-- The next line in the buffer is the line of the file behind those that are completed. -/
theorem Reads.getElem?_lines (h : Reads f o file) (hbuffer : o.buffer ≠ []) :
    (Text.lines file.text)[o.lineCount]? = some (Text.nextLine o.buffer).1 := by
  have hlines := h.lines
  rw [Text.lines_of_ne_nil hbuffer] at hlines
  have hseen : (Text.lines (file.text.take o.position))[o.lineCount]? =
      some (Text.nextLine o.buffer).1 := by
    rw [← List.head?_drop, hlines, List.head?_cons]
  rw [← List.take_append_drop o.position file.text, Text.lines_append h.seen]
  exact List.getElem?_append_left (List.getElem?_eq_some_iff.1 hseen).1 ▸ hseen

theorem Reads.isWhole (h : Reads f o file) (hbuffer : o.buffer ≠ []) :
    Text.isWhole (o.pending ++ (Text.nextLine o.buffer).1) = true := by
  rw [h.pending, List.nil_append]
  exact Text.isWhole_nextLine (h.seen.of_suffix h.suffix) hbuffer

/-- A line has been completed. -/
theorem Reads.line (h : Reads f o file) (hbuffer : o.buffer ≠ []) (hend : o.atEnd = false)
    (hlinesOf : f'.linesOf o.name = max o.skipped (o.lineCount + 1)) :
    Reads f' { o with buffer := (Text.nextLine o.buffer).2, pending := [],
                      lineCount := o.lineCount + 1 } file := by
  have hlines := h.lines
  rw [Text.lines_of_ne_nil hbuffer] at hlines
  constructor
  · exact h.name
  · exact h.position
  · exact h.seen
  · exact (Text.nextLine_suffix _).trans h.suffix
  · rfl
  · have hlength := congrArg List.length hlines
    rw [List.length_drop, List.length_cons] at hlength
    show o.lineCount + 1 ≤ (Text.lines (file.text.take o.position)).length
    omega
  · show List.drop (o.lineCount + 1) _ = _
    rw [← List.tail_drop, hlines, List.tail_cons]
  · intro hend'
    rw [hend] at hend'
    cases hend'
  · exact hlinesOf

end Reads

/-! ### What a step of the follower does -/

/-- All that one step of the follower does. -/
inductive StepTo (files : List LogFile) (f : Follower) : Follower → Prop where
  /-- It has nothing to do, or cannot go on. -/
  | rest : StepTo files f f
  | openNewest {file : LogFile} : f.fault = none → f.opened = none → file ∈ files →
      newest? files = some file.name → StepTo files f (f.openFile file.name)
  /-- At the end of a file that is still the newest it tries again. -/
  | again {o : Opened} : f.opened = some o → newest? files = some o.name →
      StepTo files f { f with opened := some { o with atEnd := false } }
  | leave {o : Opened} : f.opened = some o → o.atEnd = true → newest? files ≠ some o.name →
      StepTo files f { f with opened := none }
  | fill {o : Opened} {file : LogFile} : f.opened = some o → file ∈ files → file.name = o.name →
      o.buffer = [] → StepTo files f { f with opened := some (Follower.fill file.text o) }
  /-- It completes a line, which it has read before the file was opened. -/
  | skip {o : Opened} : f.opened = some o → o.buffer ≠ [] → o.atEnd = false →
      o.lineCount + 1 ≤ o.skipped →
      StepTo files f { f with opened := some { o with
        buffer := (Text.nextLine o.buffer).2, pending := [], lineCount := o.lineCount + 1 } }
  /-- It completes a line and notes that. If the line cannot be read, it gives up the file. -/
  | read {o : Opened} {f' : Follower} : f.opened = some o → o.buffer ≠ [] → o.atEnd = false →
      o.skipped ≤ o.lineCount →
      f'.linesRead = note o.name (o.lineCount + 1) f.linesRead →
      f'.queue = f.queue ++
        (entryAt? o.name (o.lineCount + 1) (Text.nextLine o.buffer).1).toList →
      ((f'.opened = some { o with
          buffer := (Text.nextLine o.buffer).2, pending := [], lineCount := o.lineCount + 1 } ∧
        f'.fault = f.fault) ∨
       f'.opened = none) →
      StepTo files f f'

theorem stepTo_takeLine {files : List LogFile} {f : Follower} {o : Opened} {file : LogFile}
    (ho : f.opened = some o) (hreads : Reads f o file) (hbuffer : o.buffer ≠ [])
    (hend : o.atEnd = false) : StepTo files f (f.takeLine o) := by
  have hwhole := hreads.isWhole hbuffer
  simp only [takeLine, if_pos hwhole]
  simp only [hreads.pending, List.nil_append, complete]
  split
  · next hskip => exact .skip ho hbuffer hend hskip
  · next hread =>
    have hle : o.skipped ≤ o.lineCount := by omega
    cases hentry : entryOf o.name (o.lineCount + 1) (Text.nextLine o.buffer).1 with
    | ok entry =>
      refine .read ho hbuffer hend hle rfl ?_ (.inl ⟨rfl, rfl⟩)
      simp [entryAt?, hentry, Except.toOption]
    | error fault =>
      refine .read ho hbuffer hend hle rfl ?_ (.inr rfl)
      simp [entryAt?, hentry, Except.toOption]

theorem stepTo_step {files : List LogFile} {f : Follower} (hfolder : Folder files)
    (hopened : ∀ o, f.opened = some o → ∃ file ∈ files, Reads f o file) :
    StepTo files f (f.step files) := by
  unfold Follower.step
  split
  · exact .rest
  · next hfault hnone =>
    split
    · next name hnewest =>
      obtain ⟨front, last, rfl, rfl⟩ := hfolder.newest?_eq_some_iff.1 hnewest
      exact .openNewest hfault hnone (by simp) hnewest
    · exact .rest
  · next o _ ho =>
    obtain ⟨file, hfile, hreads⟩ := hopened o ho
    have hfind : find? files o.name = some file := hreads.name ▸ hfolder.find?_of_mem hfile
    split
    · next hend =>
      split
      · next hnewest => exact .again ho hnewest
      · next hnewest => exact .leave ho hend hnewest
    · next hend =>
      split
      · next hempty =>
        rw [hfind]
        simp only [hfolder.intact file hfile, Bool.false_eq_true, false_and, if_false]
        exact .fill ho hfile hreads.name (List.isEmpty_iff.1 hempty)
      · next hbuffer =>
        have hbuffer : o.buffer ≠ [] := fun h => hbuffer (List.isEmpty_iff.2 h)
        exact stepTo_takeLine ho hreads hbuffer (Bool.eq_false_iff.2 hend)

section StepTo

variable {files : List LogFile} {f f' : Follower}

theorem StepTo.linesOf_le (hstep : StepTo files f f')
    (hopened : ∀ o, f.opened = some o → ∃ file ∈ files, Reads f o file) (name : Text) :
    f.linesOf name ≤ f'.linesOf name := by
  cases hstep with
  | @read o _ ho _ _ hread hlines =>
    by_cases hname : name = o.name
    · obtain ⟨file, -, hreads⟩ := hopened o ho
      rw [hname, linesOf_note hlines, hreads.linesOf, Nat.max_eq_right hread]
      exact Nat.le_succ _
    · exact (linesOf_note_of_ne hlines hname).ge
  | _ => exact (linesOf_congr rfl name).ge

/-- The follower goes on with a file or gives it up. -/
theorem StepTo.opened_or (hstep : StepTo files f f') {o : Opened}
    (ho : f.opened = some o) : (∃ o' ∈ f'.opened, o'.name = o.name) ∨ f'.opened = none := by
  cases hstep with
  | rest => exact .inl ⟨o, ho, rfl⟩
  | openNewest _ hnone => rw [ho] at hnone; cases hnone
  | again ho' => cases ho.symm.trans ho'; exact .inl ⟨_, rfl, rfl⟩
  | leave => exact .inr rfl
  | fill ho' => cases ho.symm.trans ho'; exact .inl ⟨_, rfl, rfl⟩
  | skip ho' => cases ho.symm.trans ho'; exact .inl ⟨_, rfl, rfl⟩
  | read ho' _ _ _ _ _ hopened =>
    cases ho.symm.trans ho'
    refine hopened.imp (fun h => ?_) id
    exact ⟨_, h.1, rfl⟩

end StepTo

end JournalHerald.Journal

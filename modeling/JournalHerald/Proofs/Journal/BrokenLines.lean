import JournalHerald.Proofs.Journal.Growth
import JournalHerald.Proofs.Text.LineEnds

/-!
# Lines that are no entries

The program reads the history in the complete lines of all journal files, whatever these contain. A line
that is no JSON only counts. A line that is JSON but no object, or that is beyond the limits for JSON
texts, keeps the history from being read at all, and the first such line tells why.

* `Text.completeLines` are the lines of a text that have their ends, however these are written;
* `lineFault?` is what keeps a line from being read, `lineFault?_eq_none_iff` says that the other lines
  are legible;
* `load_eq_outcome` is the history of any files, or the fault of their first line that has one.
-/

namespace JournalHerald

/-- The lines of a text that have their ends, each with a line feed for its end. -/
def Text.completeLines (t : Text) : List Text :=
  t.joinLineEnds.fedLines

namespace Journal

/-- The lines of a file that the history consists of are its complete lines. -/
theorem wholeLines_eq_completeLines (text : Text) :
    History.wholeLines text = text.completeLines := by
  rw [Text.completeLines, ← wholeLines_eq_fedLines (Text.not_mem_joinLineEnds text),
    History.wholeLines, History.wholeLines, Text.lines_joinLineEnds]

/-! ### One line -/

/-- What keeps a line from being read. -/
def lineFault? (line : Text) : Option ReadFault :=
  match Json.parse line with
  | .ok (.object _) => none
  | .ok _ => some .notObject
  | .error error => if error.fault.isSyntax then none else some (.oversized error)

/-- The legible lines are those that nothing keeps from being read. -/
theorem lineFault?_eq_none_iff {line : Text} : lineFault? line = none ↔ Legible line := by
  unfold lineFault? Legible
  cases Json.parse line with
  | error error => cases hkind : error.fault.isSyntax <;> simp [hkind]
  | ok v => cases v <;> simp

/-- What comes of reading lines that yield something: the fault of the first line that has one, or what
they yield if none has. -/
def outcome {α : Type} (lines : List Text) (a : α) : Except ReadFault α :=
  match lines.findSome? lineFault? with
  | some fault => .error fault
  | none => .ok a

section Outcome

variable {α β : Type} {lines more : List Text} {a : α} {b : β}

/-- Lines are read one after the other. -/
theorem outcome_bind {f : α → Except ReadFault β} (h : f a = outcome more b) :
    (outcome lines a >>= f) = outcome (lines ++ more) b := by
  rw [outcome, outcome, List.findSome?_append]
  cases lines.findSome? lineFault? with
  | some fault => rfl
  | none => exact h

theorem outcome_bind_ok {f : α → Except ReadFault β} (h : f a = .ok b) :
    (outcome lines a >>= f) = outcome lines b := by
  have hbind : (outcome lines a >>= f) = outcome (lines ++ []) b := outcome_bind h
  rwa [List.append_nil] at hbind

theorem exists_outcome_iff : (∃ c, outcome lines a = .ok c) ↔ ∀ line ∈ lines, Legible line := by
  simp only [← lineFault?_eq_none_iff, ← List.findSome?_eq_none_iff]
  unfold outcome
  cases lines.findSome? lineFault? <;> simp

end Outcome

theorem entryOf_eq (file : Text) (number : Nat) (line : Text) :
    entryOf file number line = outcome [line] ((objectIn? line).map fun fields =>
      Fields.set fields idField (.text (entryId file number))) := by
  unfold entryOf outcome objectIn?
  rw [List.findSome?_singleton, lineFault?]
  cases Json.parse line with
  | error error => cases hkind : error.fault.isSyntax <;> simp [hkind]
  | ok v => cases v <;> simp

/-! ### Lines and files -/

/-- The objects among lines, of which the first one has the given number. -/
def objectsFrom (file : Text) (number : Nat) (lines : List Text) : List Fields :=
  (lines.zipIdx number).filterMap fun numbered =>
    (objectIn? numbered.1).map fun fields =>
      Fields.set fields idField (.text (entryId file numbered.2))

theorem objectsFrom_cons (file : Text) (number : Nat) (line : Text) (lines : List Text) :
    objectsFrom file number (line :: lines) =
      ((objectIn? line).map fun fields =>
        Fields.set fields idField (.text (entryId file number))).toList ++
          objectsFrom file (number + 1) lines := by
  rw [objectsFrom, List.zipIdx_cons, List.filterMap_cons, objectsFrom]
  cases objectIn? line <;> rfl

theorem entriesOf_eq (file : Text) (number : Nat) (lines : List Text) :
    entriesOf file number lines = outcome lines (objectsFrom file number lines) := by
  induction lines generalizing number with
  | nil => rfl
  | cons line lines ih =>
    rw [entriesOf, entryOf_eq, objectsFrom_cons]
    show _ = outcome ([line] ++ lines) _
    refine outcome_bind ?_
    rw [ih]
    exact outcome_bind_ok rfl

theorem loadFile_eq (history : History) {file : LogFile} (hintact : file.broken = false) :
    History.loadFile history file = outcome file.text.completeLines
      ⟨history.entries ++ objectsFrom file.name 1 file.text.completeLines,
        history.linesRead ++ [(file.name, file.text.completeLines.length)]⟩ := by
  rw [History.loadFile, wholeLines_eq_completeLines, entriesOf_eq, hintact]
  exact outcome_bind_ok rfl

theorem foldlM_loadFile_eq {files : List LogFile} (hintact : ∀ file ∈ files, file.broken = false)
    (history : History) :
    files.foldlM History.loadFile history = outcome (files.flatMap fun file => file.text.completeLines)
      ⟨history.entries ++
          files.flatMap fun file => objectsFrom file.name 1 file.text.completeLines,
        history.linesRead ++ files.map fun file => (file.name, file.text.completeLines.length)⟩ := by
  induction files generalizing history with
  | nil => simp [outcome, pure, Except.pure]
  | cons file files ih =>
    obtain ⟨hfile, hfiles⟩ := List.forall_mem_cons.1 hintact
    simp only [List.foldlM_cons, loadFile_eq history hfile, List.flatMap_cons, List.map_cons]
    refine outcome_bind ?_
    rw [ih hfiles]
    simp only [List.append_assoc, List.singleton_append]

/-! ### Main statement -/

/-- **What the history of any files is.** Let every journal file be text throughout. If every complete
line of the journal is a JSON object or no JSON, the history is read: it holds the objects among the
complete lines, file by file in order, each with the number of its line in its id, and all complete lines
count as read. Otherwise the first complete line that is something else keeps it from being read. -/
theorem load_eq_outcome {files : List LogFile}
    (hintact : ∀ file ∈ journalFiles files, file.broken = false) :
    History.load files = outcome ((journalFiles files).flatMap fun file => file.text.completeLines)
      ⟨(journalFiles files).flatMap fun file => objectsFrom file.name 1 file.text.completeLines,
        (journalFiles files).map fun file => (file.name, file.text.completeLines.length)⟩ ∧
    ((∃ history, History.load files = .ok history) ↔
      ∀ file ∈ journalFiles files, ∀ line ∈ file.text.completeLines, Legible line) := by
  have hload := foldlM_loadFile_eq hintact {}
  rw [← History.load] at hload
  refine ⟨hload, ?_⟩
  rw [hload, exists_outcome_iff]
  simp only [List.mem_flatMap]
  constructor
  · intro h file hfile line hline
    exact h line ⟨file, hfile, hline⟩
  · rintro h line ⟨file, hfile, hline⟩
    exact h file hfile line hline

/-- Two journal files and another one. The lines end with carriage returns in places, one is empty, one is
no JSON, and the last one has no end. -/
def fragments : List LogFile :=
  [⟨"Journal.1.log", "\x7b\x7d\r\n\nno\r\x7b\x7d\n\x7b", false⟩, ⟨"Status.json", "5\n", true⟩,
    ⟨"Journal.2.log", "\x7b\x7d\n", false⟩]

theorem load_eq_outcome_fragments :
    (∀ file ∈ journalFiles fragments, file.broken = false) ∧
    History.load fragments = .ok
      ⟨[[("id", .text "Journal.1.log.000001")], [("id", .text "Journal.1.log.000004")],
          [("id", .text "Journal.2.log.000001")]],
        [("Journal.1.log", 4), ("Journal.2.log", 1)]⟩ := by
  have hintact : ∀ file ∈ journalFiles fragments, file.broken = false := by decide
  exact ⟨hintact, (load_eq_outcome hintact).1.trans (by rfl)⟩

/-- A number between two objects: nothing is read. -/
theorem load_ne_ok_number :
    History.load [⟨"Journal.1.log", "\x7b\x7d\n5\n\x7b\x7d\n", false⟩] = .error .notObject :=
  (foldlM_loadFile_eq (by decide) {}).trans (by rfl)

end Journal

end JournalHerald

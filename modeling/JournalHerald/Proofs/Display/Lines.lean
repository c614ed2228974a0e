import JournalHerald.Display.Notice
import JournalHerald.Proofs.Json.Values

/-!
# Lines for the display

A notice is one line of ASCII, and what is read from the line is the notice with its time stamp. The numbers
in the notice have at most as many digits as a JSON text can have. In its texts the halves of a surrogate pair
that follow one another are read as the character that they stand for; a text of characters has none.

* `Carries` says that a line can be framed by its end and holds an object;
* `line?_of_legible` gives such a line for any object that can be written and read;
* `carries_notices` are the lines for what is shown, for the progress and for failures.
-/

namespace JournalHerald

/-! ### Values that stay as they are -/

theorem Value.plainItems_eq_map (vs : List Value) : plainItems vs = vs.map plain := by
  induction vs with
  | nil => rfl
  | cons v vs ih => rw [plainItems, ih, List.map_cons]

theorem Value.plainFields_eq_map (fs : Fields) : plainFields fs = fs.map fun f => (f.1, f.2.plain) := by
  induction fs with
  | nil => rfl
  | cons f fs ih => rw [plainFields, ih, List.map_cons]

/-- There is nothing to replace in a value that JSON can hold. -/
theorem Json.Legible.plain_eq {n : Nat} {v : Value} (h : Legible n v) : v.plain = v := by
  induction h with
  | null => rfl
  | bool => rfl
  | int => rfl
  | text => rfl
  | list _ ih => rw [Value.plain, Value.plainItems_eq_map, List.map_congr_left ih, List.map_id']
  | object _ _ _ ih =>
    have hsame : ∀ f ∈ _, (f.1, Value.plain f.2) = f := fun f hf => Prod.ext rfl (ih f hf)
    rw [Value.plain, Value.plainFields_eq_map, List.map_congr_left hsame, List.map_id']

/-! ### Time stamps -/

theorem Text.isSurrogate_of_mem_zeroPadded {width n : Nat} {c : CodePoint} (h : c ∈ zeroPadded width n) :
    c.isSurrogate = false := by
  rcases List.mem_append.1 h with h | h
  · rw [List.eq_of_mem_replicate h]
    rfl
  · obtain ⟨d, -, rfl⟩ := List.mem_map.1 h
    rfl

theorem Timestamp.unpaired_universal (t : Timestamp) : t.universal.Unpaired := by
  have hstring : ∀ (s : String), ∀ c ∈ Text.ofString s, c.isSurrogate = false := by
    intro s c hc
    obtain ⟨d, -, rfl⟩ := List.mem_map.1 hc
    rfl
  have hnumber : ∀ (width n : Nat), ∀ c ∈ Text.zeroPadded width n, c.isSurrogate = false :=
    fun _ _ _ => Text.isSurrogate_of_mem_zeroPadded
  apply Text.Unpaired.of_not_isSurrogate
  simp only [universal, iso, isoDate, if_true, Option.map_none, Option.getD_none, List.forall_mem_append]
  and_intros
  all_goals first | exact hnumber _ _ | exact hstring _ | exact List.forall_mem_nil _

namespace Display

open Json (Legible IsShort isShort_of_lt joined_label legible_object)

variable {fields : Fields} {line now : Text}

/-! ### Lines -/

/-- The line is ASCII, ends where its only line break is, and holds an object with these fields. -/
structure Carries (line : Text) (fields : Fields) : Prop where
  ascii : ∀ c ∈ line, c.toNat < 128
  single : line.count (.char '\n') = 1
  ends : line.getLast? = some (.char '\n')
  parse : Json.parse line = .ok (.object fields)

theorem Legible.object_concat {n : Nat} {name : Text} (h : Legible n (.object fields))
    (hname : name ∉ fields.map Prod.fst) (hunpaired : name.Unpaired) (t : Text) :
    Legible n (.object (fields ++ [(name, .text t)])) := by
  cases h with
  | object hdistinct hnames heach =>
    constructor
    case distinct =>
      rw [List.map_append]
      refine List.nodup_append.2 ⟨hdistinct, by simp, ?_⟩
      rintro other hmem _ hlast rfl
      have hother : other = name := List.eq_of_mem_singleton hlast
      exact hname (hother ▸ hmem)
    case names => exact List.forall_mem_append.2 ⟨hnames, by simpa using hunpaired⟩
    case each => exact List.forall_mem_append.2 ⟨heach, by simpa using .text t⟩

/-- **The line for an object carries its fields and the time stamp.** -/
theorem line?_of_legible (h : Legible Json.maxNesting (.object fields))
    (hstamp : stampField ∉ fields.map Prod.fst) (hnow : now.Unpaired) :
    ∃ line, line? now (.object fields) = some line ∧
      Carries line (Value.joinedFields fields ++ [(stampField, .text now)]) := by
  obtain ⟨w, hw, hgraphic, hparse⟩ := (Legible.object_concat h hstamp (.ofString _) now).parse_line
  have hstamped : stamped? now (.object fields) = some (.object (fields ++ [(stampField, .text now)])) := by
    rw [stamped?, Fields.get?_eq_none hstamp]
    rfl
  have hjoined : (Value.object (fields ++ [(stampField, .text now)])).joined =
      .object (Value.joinedFields fields ++ [(stampField, .text now)]) := by
    simp only [Value.joined, Value.joinedFields_eq_map, List.map_append, List.map_cons, List.map_nil,
      hnow.joined_eq]
  have hbreak : .char '\n' ∉ w := by
    intro hmem
    have := hgraphic _ hmem
    revert this
    decide
  refine ⟨w ++ Text.ofString "\n", ?_, ?_, ?_, List.getLast?_concat, hjoined ▸ hparse⟩
  · rw [line?, h.plain_eq, hstamped]
    simp [hw]
  · refine List.forall_mem_append.2 ⟨fun c hc => ?_, by decide⟩
    have := (hgraphic c hc).2
    omega
  · rw [List.count_append, List.count_eq_zero_of_not_mem hbreak]
    rfl

/-! ### Notices -/

/-- The line for an object with different strings for names, none of which is that of the time stamp. -/
theorem line?_of_names {n : Nat} {names : List String} (hnames : fields.map Prod.fst = names.map Text.ofString)
    (hdistinct : ("timestamp" :: names).Nodup) (hn : Json.maxNesting = n + 1)
    (heach : ∀ f ∈ fields, Legible n f.2) (hnow : now.Unpaired) :
    ∃ line, line? now (.object fields) = some line ∧
      Carries line (Value.joinedFields fields ++ [(stampField, .text now)]) := by
  obtain ⟨hstamp, hdistinct⟩ := List.nodup_cons.1 hdistinct
  refine line?_of_legible (hn ▸ legible_object hnames hdistinct heach) ?_ hnow
  rw [hnames]
  intro hmem
  obtain ⟨s, hs, heq⟩ := List.mem_map.1 hmem
  exact hstamp (Text.ofString_inj.1 heq ▸ hs)

theorem legible_partValue {n : Nat} (p : Part) : Legible (n + 1) (partValue p) := by
  refine legible_object (rfl : _ = ["text", "style", "color"].map Text.ofString) (by decide) ?_
  simp only [List.forall_mem_cons]
  exact ⟨.text _, .text _, .text _, List.forall_mem_nil _⟩

theorem joined_partValue (p : Part) :
    (partValue p).joined = .object
      [("text", .text p.text.joined), ("style", .text p.style.label), ("color", .text p.style.color)] := by
  have hcolor : p.style.color.joined = p.style.color := by cases p.style <;> exact Text.joined_ofString _
  rw [← joined_label p.style, ← hcolor]
  rfl

/-- **A notice is one line, from which it is read back with its time stamp.** -/
theorem carries_notices (t : Timestamp) :
    (∀ p : Presentation, IsShort p.displaySeconds → IsShort p.durationSeconds → IsShort p.closeSeconds →
      ∃ line, (Notice.notification p).line? t.universal = some line ∧
        Carries line
          [("type", .text "notification"), ("header", .text p.header.joined),
            ("parts", .list (p.parts.map fun q => .object
              [("text", .text q.text.joined), ("style", .text q.style.label), ("color", .text q.style.color)])),
            ("display_seconds", .int p.displaySeconds), ("duration_seconds", .int p.durationSeconds),
            ("close_seconds", .int p.closeSeconds), ("timestamp", .text t.universal)]) ∧
    (∀ percent, IsShort percent →
      ∃ line, (Notice.progress percent).line? t.universal = some line ∧
        Carries line
          [("type", .text "load_progress"), ("percent", .int percent), ("timestamp", .text t.universal)]) ∧
    ∀ message errors,
      ∃ line, (Notice.failure message errors).line? t.universal = some line ∧
        Carries line
          [("type", .text "error"), ("message", .text message.joined),
            ("errors", .list (errors.map fun e => .text e.joined)), ("timestamp", .text t.universal)] := by
  have hnow := t.unpaired_universal
  refine ⟨?_, ?_, ?_⟩
  · intro p hdisplay hduration hclose
    have hlist : Legible 989 (.list (p.parts.map partValue)) :=
      .list (List.forall_mem_map.2 fun q _ => legible_partValue q)
    have hjoined : Value.joinedItems (p.parts.map partValue) = p.parts.map fun q => .object
        [("text", .text q.text.joined), ("style", .text q.style.label), ("color", .text q.style.color)] := by
      rw [Value.joinedItems_eq_map, List.map_map]
      exact List.map_congr_left fun q _ => joined_partValue q
    rw [← hjoined]
    refine line?_of_names (rfl : _ = ["type", "header", "parts", "display_seconds", "duration_seconds",
      "close_seconds"].map Text.ofString) (by decide) rfl ?_ hnow
    simp only [List.forall_mem_cons]
    exact ⟨.text _, .text _, hlist, .int hdisplay, .int hduration, .int hclose, List.forall_mem_nil _⟩
  · intro percent hpercent
    refine line?_of_names (rfl : _ = ["type", "percent"].map Text.ofString) (by decide) rfl ?_ hnow
    simp only [List.forall_mem_cons]
    exact ⟨.text _, .int hpercent, List.forall_mem_nil _⟩
  · intro message errors
    have hlist : Legible 989 (.list (errors.map .text)) :=
      .list (List.forall_mem_map.2 fun e _ => .text e)
    have hjoined : Value.joinedItems (errors.map .text) = errors.map fun e => .text e.joined := by
      rw [Value.joinedItems_eq_map, List.map_map]
      rfl
    rw [← hjoined]
    refine line?_of_names (rfl : _ = ["type", "message", "errors"].map Text.ofString) (by decide) rfl ?_ hnow
    simp only [List.forall_mem_cons]
    exact ⟨.text _, .text _, hlist, List.forall_mem_nil _⟩

/-- There is no line with a number that is too long. -/
theorem line?_progress_eq_none {percent : Int} (h : ¬IsShort percent) (now : Text) :
    (Notice.progress percent).line? now = none := by
  have hstamped : stamped? now (Notice.progress percent).toValue.plain = some (.object
      [("type", .text "load_progress"), ("percent", .int percent), (stampField, .text now)]) := rfl
  show line? now (Notice.progress percent).toValue = none
  rw [line?, hstamped]
  simp [Json.write?, Json.writeAt?, Json.writeFields?, Json.writeInt?_of_not_isShort h]

/-- A presentation whose texts need every kind of escape. -/
def troublesome : Presentation where
  header := "\"Jump\" \\ \x07é😀"
  parts := [⟨"two\r\nlines", .warning⟩, ⟨[.surrogate 0x600, .char '\t', .surrogate 0x3D, .surrogate 0x600], .name⟩]
  displaySeconds := -8
  durationSeconds := 0
  closeSeconds := 10 ^ 100

theorem carries_notices_troublesome :
    (∃ line, (Notice.notification troublesome).line? (Timestamp.ofUnix 0).universal = some line ∧
      Carries line
        [("type", .text "notification"), ("header", .text "\"Jump\" \\ \x07é😀"),
          ("parts", .list
            [.object [("text", .text "two\r\nlines"), ("style", .text "Warning"), ("color", .text "#FF0000")],
              .object [("text", .text [.surrogate 0x600, .char '\t', .char '😀']), ("style", .text "Name"),
                ("color", .text "#F6CBFF")]]),
          ("display_seconds", .int (-8)), ("duration_seconds", .int 0), ("close_seconds", .int (10 ^ 100)),
          ("timestamp", .text (Timestamp.ofUnix 0).universal)]) ∧
    (∃ line, (Notice.progress 100).line? (Timestamp.ofUnix 0).universal = some line ∧
      Carries line [("type", .text "load_progress"), ("percent", .int 100),
        ("timestamp", .text (Timestamp.ofUnix 0).universal)]) ∧
    ∃ line, (Notice.failure "a\nb" ["\u2028"]).line? (Timestamp.ofUnix 0).universal = some line ∧
      Carries line [("type", .text "error"), ("message", .text "a\nb"), ("errors", .list [.text "\u2028"]),
        ("timestamp", .text (Timestamp.ofUnix 0).universal)] := by
  obtain ⟨hshown, hprogress, hfailure⟩ := carries_notices (Timestamp.ofUnix 0)
  have hhalves : Text.joined [.surrogate 0x600, .char '\t', .surrogate 0x3D, .surrogate 0x600] =
      [.surrogate 0x600, .char '\t', .char '😀'] := by decide
  refine ⟨?_, hprogress 100 (isShort_of_lt (by decide)), by simpa using hfailure "a\nb" ["\u2028"]⟩
  simpa [troublesome, hhalves, Style.label, Style.color] using
    hshown troublesome (isShort_of_lt (by decide)) (isShort_of_lt (by decide)) (isShort_of_lt (by decide))

/-- The halves of a pair make the same line as the character that they stand for, and a number may be too
long for any line. -/
theorem line?_halves_eq :
    (Notice.notification ⟨[.surrogate 0x3D, .surrogate 0x600], [], 8, 9, 10⟩).line? "" =
      (Notice.notification ⟨"😀", [], 8, 9, 10⟩).line? "" ∧
    ([.surrogate 0x3D, .surrogate 0x600] : Text) ≠ "😀" ∧
    (Notice.progress (10 ^ Json.maxDigits)).line? "" = none := by
  refine ⟨by decide +kernel, by decide, line?_progress_eq_none ?_ _⟩
  simp [IsShort, Int.natAbs_pow]

end Display

end JournalHerald

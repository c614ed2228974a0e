import JournalHerald.Proofs.Json.Strings
import JournalHerald.Proofs.Text.Numerals
import JournalHerald.Proofs.Value.Fields

/-!
# Reading back written values

A value is read as the value that was written, with the halves of pairs joined in its texts, on one line or
over several. Every character of its text is a graphic one of ASCII, or belongs to the layout. That holds of
the values built from null, truth values, whole numbers, texts, lists and objects, within the limits that a
reader has:

* a whole number has at most `maxDigits` digits, or there is no text for it at all;
* the names of an object differ from each other and have no halves of pairs in a row;
* there are at most `maxNesting` lists and objects around any part.

`Legible` are those values, `Value.joined` is what is read, `Spells` says what the texts are good for,
`Legible.parse_line` reads a whole line and `Legible.parse_pretty` a whole file.
-/

namespace JournalHerald

mutual

/-- The value with the halves of pairs joined in its texts. The names of fields stay as they are. -/
def Value.joined : Value → Value
  | .text t => .text t.joined
  | .list items => .list (Value.joinedItems items)
  | .object fields => .object (Value.joinedFields fields)
  | v => v

/-- `Value.joined` on every item of a list. -/
def Value.joinedItems : List Value → List Value
  | [] => []
  | v :: rest => v.joined :: Value.joinedItems rest

/-- `Value.joined` on every field of an object. -/
def Value.joinedFields : List (Text × Value) → List (Text × Value)
  | [] => []
  | (name, v) :: rest => (name, v.joined) :: Value.joinedFields rest

end

theorem Value.joinedItems_eq_map (vs : List Value) : joinedItems vs = vs.map joined := by
  induction vs with
  | nil => rfl
  | cons v vs ih => rw [joinedItems, ih, List.map_cons]

theorem Value.joinedFields_eq_map (fs : Fields) : joinedFields fs = fs.map fun f => (f.1, f.2.joined) := by
  induction fs with
  | nil => rfl
  | cons f fs ih => rw [joinedFields, ih, List.map_cons]

namespace Json

variable {v : Value} {w rest : Text} {n k bound depth : Nat} {layout : Layout}

/-- The text ends, or goes on with what stands behind a value. -/
inductive Delimited : Text → Prop where
  | nil : Delimited []
  | cons {c : Char} (h : c ∈ [',', ']', '}', '\n']) (more : Text) : Delimited (.char c :: more)

theorem forall_delimiter {p : Char → Prop} (h : p ',' ∧ p ']' ∧ p '}' ∧ p '\n') :
    ∀ c ∈ [',', ']', '}', '\n'], p c := by
  simpa using h

/-! ### Numbers -/

/-- A whole number with at most as many digits as a JSON text can have. -/
def IsShort (i : Int) : Prop :=
  i.natAbs < 10 ^ maxDigits

theorem isShort_iff {i : Int} : IsShort i ↔ (Text.natText i.natAbs).length ≤ maxDigits :=
  (Text.length_natText_le_iff (by decide)).symm

/-- A number is written unless it has too many digits. -/
theorem writeInt?_of_isShort {i : Int} (h : IsShort i) : writeInt? i = some (Text.intText i) :=
  if_neg (Nat.not_lt.2 (isShort_iff.1 h))

theorem isShort_of_lt {i : Int} (h : i.natAbs < 10 ^ 101) : IsShort i :=
  Nat.lt_of_lt_of_le h (Nat.pow_le_pow_right (by decide) (by decide))

theorem writeInt?_of_not_isShort {i : Int} (h : ¬IsShort i) : writeInt? i = none :=
  if_pos (Nat.lt_of_not_le fun hle => h (isShort_iff.2 hle))

theorem spanDigits_append {ds : Text} (hds : ∀ c ∈ ds, Text.isAsciiDigit c = true)
    (hrest : Delimited rest) : spanDigits (ds ++ rest) = (ds, rest) := by
  have hstop : rest.takeWhile Text.isAsciiDigit = [] ∧ rest.dropWhile Text.isAsciiDigit = rest := by
    cases hrest with
    | nil => exact ⟨rfl, rfl⟩
    | @cons c hc more =>
      have hneg : ¬Text.isAsciiDigit (.char c) = true :=
        forall_delimiter (p := fun c => ¬Text.isAsciiDigit (.char c) = true) (by decide) c hc
      exact ⟨List.takeWhile_cons_of_neg hneg, List.dropWhile_cons_of_neg hneg⟩
  rw [spanDigits, List.takeWhile_append_of_pos hds, List.dropWhile_append_of_pos hds, hstop.1, hstop.2,
    List.append_nil]

theorem wholePart?_natText (n : Nat) (hrest : Delimited rest) :
    wholePart? (Text.natText n ++ rest) = some (Text.natText n, rest) := by
  have hspan := spanDigits_append (fun _ => Text.isAsciiDigit_of_mem_natText (n := n)) hrest
  obtain ⟨d, ds, htext, hd, hzero⟩ := Text.natText_eq_digit_cons n
  by_cases h : d = 0
  · rw [hzero h]
    rfl
  · rw [htext, List.cons_append] at hspan ⊢
    interval_cases d
    · exact absurd rfl h
    all_goals exact congrArg some hspan

theorem fractionPart_of_delimited (h : Delimited rest) : fractionPart rest = ([], rest) := by
  cases h with
  | nil => rfl
  | @cons c hc more =>
    unfold fractionPart
    split
    · next heq =>
      obtain rfl := CodePoint.char.inj (List.cons.inj heq).1
      simp at hc
    · rfl

theorem exponentPart_of_delimited (h : Delimited rest) : exponentPart rest = (none, rest) := by
  cases h with
  | nil => rfl
  | @cons c hc more =>
    have hmark : ¬(CodePoint.char c = .char 'e' ∨ CodePoint.char c = .char 'E') :=
      forall_delimiter (p := fun c => ¬(CodePoint.char c = .char 'e' ∨ CodePoint.char c = .char 'E')) (by decide) c hc
    simp only [exponentPart, if_neg hmark]

/-- No sign stands in front of the digits of a number. -/
theorem head?_natText_append (n : Nat) (rest : Text) :
    ((Text.natText n ++ rest).head? == some (.char '-')) = false := by
  obtain ⟨d, ds, htext, hd, -⟩ := Text.natText_eq_digit_cons n
  rw [htext]
  exact beq_eq_false_iff_ne.2 fun h => Text.digit_ne_char hd (by decide) (Option.some.inj h)

theorem readNumber_intText {i : Int} (hi : IsShort i) (hrest : Delimited rest) :
    readNumber (Text.intText i ++ rest) = .ok (.int i, rest) := by
  have hlength : ¬maxDigits < (Text.natText i.natAbs).length :=
    Nat.not_lt.2 (isShort_iff.1 hi)
  have hvalue : digitsValue (Text.natText i.natAbs) = i.natAbs := Text.ofDigits_natText _
  have hwhole := wholePart?_natText i.natAbs hrest
  by_cases hnegative : i < 0
  · have hsigned : Double.signed true i.natAbs = i := by
      show -(i.natAbs : Int) = i
      omega
    rw [Text.intText, if_pos hnegative, List.cons_append]
    simp only [readNumber, List.head?_cons, beq_self_eq_true, if_true, List.drop_succ_cons, List.drop_zero,
      hwhole, fractionPart_of_delimited hrest, exponentPart_of_delimited hrest, if_neg hlength, hvalue, hsigned]
    rfl
  · have hsigned : Double.signed false i.natAbs = i := by
      show (i.natAbs : Int) = i
      omega
    rw [Text.intText, if_neg hnegative]
    simp only [readNumber, head?_natText_append, Bool.false_eq_true, if_false, hwhole,
      fractionPart_of_delimited hrest, exponentPart_of_delimited hrest, if_neg hlength, hvalue, hsigned]
    rfl

/-! ### Words and numbers among the values -/

theorem readValue_eq_readScalar {c : Char} (hc : c ∉ ['"', '[', '{']) (rest : Text) :
    readValue bound n (.char c :: rest) = readScalar (.char c :: rest) := by
  unfold readValue
  split
  · next heq =>
    obtain rfl := CodePoint.char.inj (List.cons.inj heq).1
    simp at hc
  · next heq =>
    obtain rfl := CodePoint.char.inj (List.cons.inj heq).1
    simp at hc
  · next heq =>
    obtain rfl := CodePoint.char.inj (List.cons.inj heq).1
    simp at hc
  · rfl

/-- No word can be taken for a number. -/
theorem readValue_intText (i : Int) (rest : Text) :
    readValue bound n (Text.intText i ++ rest) = readNumber (Text.intText i ++ rest) := by
  obtain ⟨d, ds, htext, hd, -⟩ := Text.natText_eq_digit_cons i.natAbs
  by_cases hnegative : i < 0
  · rw [Text.intText, if_pos hnegative, htext, List.cons_append, readValue_eq_readScalar (by decide)]
    clear htext
    interval_cases d <;> rfl
  · rw [Text.intText, if_neg hnegative, htext, List.cons_append]
    clear htext
    interval_cases d
    all_goals exact readValue_eq_readScalar (by decide) _

/-! ### Layouts -/

/-- A layout puts commas between the items, and blanks besides, of which the first one in front of a closing
bracket breaks the line. -/
structure Layout.IsPlain (layout : Layout) : Prop where
  edge : ∀ depth, layout.edge depth = [] ∨
    ∃ gap, layout.edge depth = .char '\n' :: gap ∧ ∀ c ∈ gap, isSpace c = true
  between : ∀ depth, ∃ gap, layout.between depth = .char ',' :: gap ∧ ∀ c ∈ gap, isSpace c = true

theorem Layout.isPlain_line : Layout.line.IsPlain where
  edge := fun _ => .inl rfl
  between := fun _ => ⟨[.char ' '], rfl, by decide⟩

theorem Layout.isPlain_indented : Layout.indented.IsPlain where
  edge := fun _ => .inr ⟨_, rfl, fun _ hc => List.eq_of_mem_replicate hc ▸ rfl⟩
  between := fun _ => ⟨_, rfl, List.forall_mem_cons.2 ⟨rfl, fun _ hc => List.eq_of_mem_replicate hc ▸ rfl⟩⟩

/-- A character of a text in the layout: a graphic one of ASCII, or one that the layout puts between the
tokens. -/
def Layout.Allows (layout : Layout) (c : CodePoint) : Prop :=
  c.IsGraphic ∨ ∃ depth, c ∈ layout.edge depth ∨ c ∈ layout.between depth

theorem Layout.isGraphic_of_allows_line {c : CodePoint} (h : Layout.line.Allows c) : c.IsGraphic := by
  obtain hgraphic | ⟨depth, hedge | hbetween⟩ := h
  · exact hgraphic
  · cases hedge
  · have hline : ∀ c ∈ Layout.line.between depth, c.IsGraphic := by
      show ∀ c ∈ Text.ofString ", ", c.IsGraphic
      decide
    exact hline c hbetween

theorem Layout.isGraphic_or_of_allows_indented {c : CodePoint} (h : Layout.indented.Allows c) :
    c.IsGraphic ∨ c = .char '\n' := by
  have hgap : ∀ depth, ∀ c ∈ List.replicate (2 * depth) (CodePoint.char ' '), c.IsGraphic :=
    fun depth c hc => List.eq_of_mem_replicate hc ▸ by decide
  obtain hgraphic | ⟨depth, hedge | hbetween⟩ := h
  · exact .inl hgraphic
  · obtain rfl | hc := List.mem_cons.1 hedge
    · exact .inr rfl
    · exact .inl (hgap depth c hc)
  · obtain rfl | hc := List.mem_cons.1 hbetween
    · exact .inl (by decide)
    · obtain rfl | hc := List.mem_cons.1 hc
      · exact .inr rfl
      · exact .inl (hgap depth c hc)

theorem skipSpace_append_of_isSpace {gap : Text} (h : ∀ c ∈ gap, isSpace c = true) (rest : Text) :
    skipSpace (gap ++ rest) = skipSpace rest :=
  List.dropWhile_append_of_pos h

theorem skipSpace_cons {c : CodePoint} (h : isSpace c = false) (rest : Text) :
    skipSpace (c :: rest) = c :: rest :=
  List.dropWhile_cons_of_neg (Bool.eq_false_iff.1 h)

theorem skipSpace_space (rest : Text) : skipSpace (.char ' ' :: rest) = skipSpace rest :=
  List.dropWhile_cons_of_pos rfl

theorem Layout.IsPlain.skipSpace_edge (h : layout.IsPlain) (depth : Nat) (rest : Text) :
    skipSpace (layout.edge depth ++ rest) = skipSpace rest := by
  obtain hnone | ⟨gap, hedge, hgap⟩ := h.edge depth
  · rw [hnone, List.nil_append]
  · rw [hedge]
    exact skipSpace_append_of_isSpace (List.forall_mem_cons.2 ⟨rfl, hgap⟩) rest

/-! ### Values and their texts -/

/-- The values that can be written and read, with at most `n` lists and objects around any part. -/
inductive Legible : Nat → Value → Prop where
  | null {n : Nat} : Legible n .null
  | bool {n : Nat} (b : Bool) : Legible n (.bool b)
  | int {n : Nat} {i : Int} (short : IsShort i) : Legible n (.int i)
  | text {n : Nat} (t : Text) : Legible n (.text t)
  | list {n : Nat} {items : List Value} (each : ∀ v ∈ items, Legible n v) : Legible (n + 1) (.list items)
  | object {n : Nat} {fields : Fields} (distinct : (fields.map Prod.fst).Nodup)
      (names : ∀ f ∈ fields, f.1.Unpaired) (each : ∀ f ∈ fields, Legible n f.2) :
      Legible (n + 1) (.object fields)

/-- An object with different strings for names. -/
theorem legible_object {fields : Fields} {names : List String}
    (hnames : fields.map Prod.fst = names.map Text.ofString) (hdistinct : names.Nodup)
    (heach : ∀ f ∈ fields, Legible n f.2) : Legible (n + 1) (.object fields) := by
  refine .object ?_ ?_ heach
  · rw [hnames]
    exact List.Pairwise.map _ (fun s t hne heq => hne (Text.ofString_inj.1 heq)) hdistinct
  · intro f hf
    have hname : f.1 ∈ names.map Text.ofString := hnames ▸ List.mem_map_of_mem hf
    obtain ⟨s, -, hs⟩ := List.mem_map.1 hname
    rw [← hs]
    exact .ofString s

/-- The name of a style is the same when it is read. -/
theorem joined_label (s : Style) : s.label.joined = s.label := by
  cases s <;> exact Text.joined_ofString _

/-- A text in a layout is read as a value, whatever follows it. -/
structure Spells (layout : Layout) (n : Nat) (v : Value) (w : Text) : Prop where
  allows : ∀ c ∈ w, layout.Allows c
  /-- Neither a blank nor the end of a list can be taken for the text. -/
  opens : ∃ c more, w = c :: more ∧ c.IsGraphic ∧ isSpace c = false ∧ c ≠ .char ']'
  readValue : ∀ bound rest, w.length ≤ bound → Delimited rest → readValue bound n (w ++ rest) = .ok (v, rest)

/-- A text is the name of a field, a colon and a text that is read as its value. -/
def SpellsField (layout : Layout) (n : Nat) (f : Text × Value) (e : Text) : Prop :=
  f.1.Unpaired ∧ ∃ w, Spells layout n f.2 w ∧ e = writeString f.1 ++ .char ':' :: .char ' ' :: w

/-! ### Values without parts -/

theorem allows_of_isGraphic (h : ∀ c ∈ w, c.IsGraphic) : ∀ c ∈ w, layout.Allows c :=
  fun c hc => .inl (h c hc)

theorem spells_null : Spells layout n .null "null" where
  allows := allows_of_isGraphic (by decide)
  opens := ⟨'n', Text.ofString "ull", rfl, by decide, rfl, by decide⟩
  readValue := fun _ _ _ _ => readValue_eq_readScalar (by decide) _

theorem spells_bool (b : Bool) : Spells layout n (.bool b) (if b then "true" else "false") := by
  cases b with
  | false =>
    exact ⟨allows_of_isGraphic (by decide), ⟨'f', Text.ofString "alse", rfl, by decide, rfl, by decide⟩,
      fun _ _ _ _ => readValue_eq_readScalar (by decide) _⟩
  | true =>
    exact ⟨allows_of_isGraphic (by decide), ⟨'t', Text.ofString "rue", rfl, by decide, rfl, by decide⟩,
      fun _ _ _ _ => readValue_eq_readScalar (by decide) _⟩

theorem spells_int {i : Int} (hi : IsShort i) : Spells layout n (.int i) (Text.intText i) where
  allows := by
    have hdigits : ∀ c ∈ Text.natText i.natAbs, c.IsGraphic := by
      intro c hc
      have := Text.isAsciiDigit_iff.1 (Text.isAsciiDigit_of_mem_natText hc)
      exact ⟨by omega, by omega⟩
    refine allows_of_isGraphic ?_
    unfold Text.intText
    split
    · exact List.forall_mem_cons.2 ⟨by decide, hdigits⟩
    · exact hdigits
  opens := by
    obtain ⟨d, ds, htext, hd, -⟩ := Text.natText_eq_digit_cons i.natAbs
    unfold Text.intText
    rw [htext]
    clear htext
    split
    · exact ⟨_, _, rfl, by decide, rfl, by decide⟩
    · refine ⟨_, _, rfl, ?_⟩
      interval_cases d <;> exact ⟨by decide, rfl, by decide⟩
  readValue := by
    intro bound rest _ hrest
    rw [readValue_intText, readNumber_intText hi hrest]

theorem spells_text (t : Text) : Spells layout n (.text t.joined) (writeString t) where
  allows := allows_of_isGraphic fun _ => isGraphic_of_mem_writeString
  opens := ⟨_, _, writeString_eq t, by decide, rfl, by decide⟩
  readValue := by
    intro bound rest hbound _
    have hread : readString bound (writeString t ++ rest) = .ok (t.joined, rest) :=
      readString_writeString (Nat.lt_of_lt_of_le (length_lt_length_writeString t) hbound)
    rw [writeString_eq, List.cons_append] at hread ⊢
    rw [Json.readValue, hread]
    rfl

/-! ### Lists and objects -/

theorem Spells.skipSpace_append (h : Spells layout n v w) (rest : Text) : skipSpace (w ++ rest) = w ++ rest := by
  obtain ⟨c, more, rfl, -, hspace, -⟩ := h.opens
  exact skipSpace_cons hspace _

/-- What stands behind the first item of a container: the other items and the closing bracket. -/
def remainder (layout : Layout) (depth : Nat) (items : List Text) (closing : CodePoint) (rest : Text) : Text :=
  items.flatMap (layout.between (depth + 1) ++ ·) ++ (layout.edge depth ++ closing :: rest)

@[simp] theorem remainder_nil (closing : CodePoint) (rest : Text) :
    remainder layout depth [] closing rest = layout.edge depth ++ closing :: rest :=
  rfl

@[simp] theorem remainder_cons (item : Text) (items : List Text) (closing : CodePoint) (rest : Text) :
    remainder layout depth (item :: items) closing rest =
      layout.between (depth + 1) ++ (item ++ remainder layout depth items closing rest) := by
  rw [remainder, List.flatMap_cons, List.append_assoc, List.append_assoc]
  rfl

theorem remainder_append (items : List Text) (closing : CodePoint) (rest : Text) :
    remainder layout depth items closing [] ++ rest = remainder layout depth items closing rest := by
  simp [remainder]

theorem enclose_cons (opening closing : CodePoint) (item : Text) (items : List Text) :
    enclose layout depth opening closing (item :: items) =
      opening :: (layout.edge (depth + 1) ++ (item ++ remainder layout depth items closing [])) := by
  simp [enclose, remainder]

theorem delimited_remainder (hlayout : layout.IsPlain) (closing : Char) (h : closing ∈ [']', '}'])
    (items : List Text) (rest : Text) : Delimited (remainder layout depth items closing rest) := by
  cases items with
  | nil =>
    rw [remainder_nil]
    obtain hnone | ⟨gap, hedge, -⟩ := hlayout.edge depth
    · rw [hnone]
      have hclosing : closing = ']' ∨ closing = '}' := by simpa using h
      obtain rfl | rfl := hclosing <;> exact .cons (by decide) rest
    · rw [hedge]
      exact .cons (by decide) _
  | cons item items =>
    obtain ⟨gap, hbetween, -⟩ := hlayout.between (depth + 1)
    rw [remainder_cons, hbetween]
    exact .cons (by decide) _

/-- The items of a list are read up to the closing bracket. -/
theorem readItems_remainder (hlayout : layout.IsPlain) {vs : List Value} {ws : List Text}
    (h : List.Forall₂ (Spells layout n) vs ws) (hv : Spells layout n v w)
    (hbound : ∀ u ∈ w :: ws, u.length ≤ bound) (hk : vs.length < k) :
    readItems (readValue bound n) k (w ++ remainder layout depth ws ']' rest) = .ok (v :: vs, rest) := by
  have hdelimited : ∀ items rest, Delimited (remainder layout depth items ']' rest) :=
    delimited_remainder hlayout ']' (by decide)
  induction h generalizing v w k with
  | nil =>
    obtain ⟨k, rfl⟩ := Nat.exists_eq_add_one_of_ne_zero (Nat.ne_zero_of_lt hk)
    have hfirst := hv.readValue bound _ (hbound w (by simp)) (hdelimited [] rest)
    rw [readItems, hfirst, remainder_nil]
    simp only [bind, Except.bind, hlayout.skipSpace_edge, skipSpace_cons (rfl : isSpace ']' = false)]
    rfl
  | @cons v' w' vs ws hv' _ ih =>
    obtain ⟨k, rfl⟩ := Nat.exists_eq_add_one_of_ne_zero (Nat.ne_zero_of_lt hk)
    have hfirst := hv.readValue bound _ (hbound w (by simp)) (hdelimited (w' :: ws) rest)
    have hothers := ih hv' (fun u hu => hbound u (List.mem_cons_of_mem _ hu)) (Nat.lt_of_succ_lt_succ hk)
    obtain ⟨gap, hbetween, hgap⟩ := hlayout.between (depth + 1)
    rw [readItems, hfirst, remainder_cons, hbetween, List.cons_append]
    simp only [bind, Except.bind, skipSpace_cons (rfl : isSpace ',' = false),
      skipSpace_append_of_isSpace hgap, hv'.skipSpace_append, hothers]
    rfl

theorem SpellsField.allows {f : Text × Value} {e : Text} (h : SpellsField layout n f e) :
    ∀ c ∈ e, layout.Allows c := by
  obtain ⟨-, w, hw, rfl⟩ := h
  refine List.forall_mem_append.2 ⟨allows_of_isGraphic fun _ => isGraphic_of_mem_writeString, ?_⟩
  exact List.forall_mem_cons.2 ⟨.inl (by decide), List.forall_mem_cons.2 ⟨.inl (by decide), hw.allows⟩⟩

theorem SpellsField.opens {f : Text × Value} {e : Text} (h : SpellsField layout n f e) :
    ∃ more, e = .char '"' :: more := by
  obtain ⟨-, w, -, rfl⟩ := h
  rw [writeString_eq]
  exact ⟨_, rfl⟩

theorem SpellsField.skipSpace_append {f : Text × Value} {e : Text} (h : SpellsField layout n f e)
    (rest : Text) : skipSpace (e ++ rest) = e ++ rest := by
  obtain ⟨more, rfl⟩ := h.opens
  exact skipSpace_cons rfl _

/-- The first of the fields is put behind those that were read before. -/
theorem readFields_succ {before : Fields} {f : Text × Value} {e : Text} (h : SpellsField layout n f e)
    (hname : f.1 ∉ before.map Prod.fst) (hbound : e.length ≤ bound) (hrest : Delimited rest) (k : Nat) :
    readFields (readValue bound n) bound before (k + 1) (e ++ rest) =
      match skipSpace rest with
      | .char '}' :: rest => .ok (before ++ [f], rest)
      | .char ',' :: rest => readFields (readValue bound n) bound (before ++ [f]) k (skipSpace rest)
      | rest => failAt .expectedComma rest := by
  obtain ⟨hunpaired, w, hw, rfl⟩ := h
  rw [List.length_append, List.length_cons, List.length_cons] at hbound
  have hlength := length_lt_length_writeString f.1
  have hread : readString bound (writeString f.1 ++ .char ':' :: .char ' ' :: (w ++ rest)) =
      .ok (f.1, .char ':' :: .char ' ' :: (w ++ rest)) := by
    rw [readString_writeString (by omega), hunpaired.joined_eq]
  have hvalue := hw.readValue bound rest (by omega) hrest
  have hset : before.set f.1 f.2 = before ++ [f] := Fields.set_of_notMem hname f.2
  rw [List.append_assoc, List.cons_append, List.cons_append]
  rw [writeString_eq, List.cons_append] at hread ⊢
  rw [readFields]
  simp only [hread, bind, Except.bind, skipSpace_cons (rfl : isSpace ':' = false), skipSpace_space,
    hw.skipSpace_append, hvalue, hset]
  rfl

/-- The fields of an object are read up to the closing brace. -/
theorem readFields_remainder (hlayout : layout.IsPlain) {before fs : Fields} {f : Text × Value} {e : Text}
    {es : List Text} (h : List.Forall₂ (SpellsField layout n) fs es) (hf : SpellsField layout n f e)
    (hdistinct : ((before ++ f :: fs).map Prod.fst).Nodup) (hbound : ∀ u ∈ e :: es, u.length ≤ bound)
    (hk : fs.length < k) :
    readFields (readValue bound n) bound before k (e ++ remainder layout depth es '}' rest) =
      .ok (before ++ f :: fs, rest) := by
  induction h generalizing before f e k with
  | nil =>
    obtain ⟨k, rfl⟩ := Nat.exists_eq_add_one_of_ne_zero (Nat.ne_zero_of_lt hk)
    rw [readFields_succ hf (Fields.notMem_of_nodup hdistinct) (hbound e (by simp))
      (delimited_remainder hlayout '}' (by decide) [] rest), remainder_nil, hlayout.skipSpace_edge,
      skipSpace_cons rfl]
    rfl
  | @cons f' e' fs es hf' _ ih =>
    obtain ⟨k, rfl⟩ := Nat.exists_eq_add_one_of_ne_zero (Nat.ne_zero_of_lt hk)
    obtain ⟨gap, hbetween, hgap⟩ := hlayout.between (depth + 1)
    rw [readFields_succ hf (Fields.notMem_of_nodup hdistinct) (hbound e (by simp))
      (delimited_remainder hlayout '}' (by decide) (e' :: es) rest), remainder_cons, hbetween,
      List.cons_append]
    simp only [skipSpace_cons (rfl : isSpace ',' = false), skipSpace_append_of_isSpace hgap,
      hf'.skipSpace_append]
    have hothers : ∀ u ∈ e' :: es, u.length ≤ bound := fun u hu => hbound u (List.mem_cons_of_mem _ hu)
    rw [List.append_cons] at hdistinct
    rw [ih hf' hdistinct hothers (Nat.lt_of_succ_lt_succ hk), ← List.append_cons]

/-! ### All values -/

theorem length_lt_length_remainder (hlayout : layout.IsPlain) (depth : Nat) (items : List Text) (closing : CodePoint) :
    items.length < (remainder layout depth items closing []).length ∧
      ∀ u ∈ items, u.length < (remainder layout depth items closing []).length := by
  induction items with
  | nil => simp
  | cons item items ih =>
    obtain ⟨gap, hbetween, -⟩ := hlayout.between (depth + 1)
    rw [remainder_cons, hbetween, List.forall_mem_cons]
    simp only [List.length_cons, List.length_append]
    refine ⟨by omega, by omega, fun u hu => ?_⟩
    have := ih.2 u hu
    omega

/-- A bound for the text of a container bounds its parts and their number. -/
theorem le_of_length_enclose_le (hlayout : layout.IsPlain) {opening closing : CodePoint} {item : Text}
    {items : List Text} (h : (enclose layout depth opening closing (item :: items)).length ≤ bound) :
    items.length < bound ∧ ∀ u ∈ item :: items, u.length ≤ bound := by
  obtain ⟨hcount, hitems⟩ := length_lt_length_remainder hlayout depth items closing
  rw [enclose_cons, List.length_cons, List.length_append, List.length_append] at h
  refine ⟨by omega, List.forall_mem_cons.2 ⟨by omega, fun u hu => ?_⟩⟩
  have := hitems u hu
  omega

theorem allows_of_mem_remainder {items : List Text} {closing : CodePoint} (hclosing : closing.IsGraphic)
    (hitems : ∀ u ∈ items, ∀ c ∈ u, layout.Allows c) :
    ∀ c ∈ remainder layout depth items closing [], layout.Allows c := by
  induction items with
  | nil =>
    rw [remainder_nil, List.forall_mem_append]
    exact ⟨fun c hc => .inr ⟨_, .inl hc⟩, List.forall_mem_singleton.2 (.inl hclosing)⟩
  | cons item items ih =>
    obtain ⟨hitem, hitems⟩ := List.forall_mem_cons.1 hitems
    rw [remainder_cons, List.forall_mem_append, List.forall_mem_append]
    exact ⟨fun c hc => .inr ⟨_, .inr hc⟩, hitem, ih hitems⟩

theorem allows_of_mem_enclose {opening closing : CodePoint} {items : List Text}
    (hopening : opening.IsGraphic) (hclosing : closing.IsGraphic)
    (hitems : ∀ u ∈ items, ∀ c ∈ u, layout.Allows c) :
    ∀ c ∈ enclose layout depth opening closing items, layout.Allows c := by
  cases items with
  | nil => exact List.forall_mem_cons.2 ⟨.inl hopening, List.forall_mem_singleton.2 (.inl hclosing)⟩
  | cons item items =>
    obtain ⟨hitem, hitems⟩ := List.forall_mem_cons.1 hitems
    rw [enclose_cons, List.forall_mem_cons, List.forall_mem_append, List.forall_mem_append]
    exact ⟨.inl hopening, fun c hc => .inr ⟨_, .inl hc⟩, hitem, allows_of_mem_remainder hclosing hitems⟩

theorem forall_mem_of_forall₂ {α β : Type} {R : α → β → Prop} {p : β → Prop} {xs : List α} {ys : List β}
    (h : List.Forall₂ R xs ys) (himp : ∀ x y, R x y → p y) : ∀ y ∈ ys, p y := by
  induction h with
  | nil => simp
  | cons hxy _ ih => exact List.forall_mem_cons.2 ⟨himp _ _ hxy, ih⟩

theorem opens_enclose {opening closing : CodePoint} (items : List Text) :
    ∃ more, enclose layout depth opening closing items = opening :: more := by
  cases items with
  | nil => exact ⟨_, rfl⟩
  | cons item items => exact ⟨_, enclose_cons _ _ _ _⟩

theorem spells_list (hlayout : layout.IsPlain) {vs : List Value} {ws : List Text}
    (h : List.Forall₂ (Spells layout n) vs ws) :
    Spells layout (n + 1) (.list vs) (enclose layout depth '[' ']' ws) where
  allows :=
    allows_of_mem_enclose (by decide) (by decide) (forall_mem_of_forall₂ h fun _ _ hw => hw.allows)
  opens := by
    obtain ⟨more, hmore⟩ := opens_enclose ws
    exact ⟨'[', more, hmore, by decide, rfl, by decide⟩
  readValue := by
    intro bound rest hbound _
    cases h with
    | nil => rfl
    | @cons v w vs ws hv hall =>
      obtain ⟨hcount, hlengths⟩ := le_of_length_enclose_le hlayout hbound
      rw [← hall.length_eq] at hcount
      have hitems : readItems (Json.readValue bound n) bound (w ++ remainder layout depth ws ']' rest) =
          .ok (v :: vs, rest) :=
        readItems_remainder hlayout hall hv hlengths hcount
      rw [enclose_cons, List.cons_append, List.append_assoc, List.append_assoc, remainder_append,
        Json.readValue, hlayout.skipSpace_edge, hv.skipSpace_append]
      obtain ⟨c, more, rfl, -, -, hne⟩ := hv.opens
      rw [List.cons_append] at hitems ⊢
      split
      · next heq => exact absurd (List.cons.inj heq).1 hne
      · rw [hitems]
        rfl

theorem spells_object (hlayout : layout.IsPlain) {fs : Fields} {es : List Text}
    (h : List.Forall₂ (SpellsField layout n) fs es) (hdistinct : (fs.map Prod.fst).Nodup) :
    Spells layout (n + 1) (.object fs) (enclose layout depth '{' '}' es) where
  allows :=
    allows_of_mem_enclose (by decide) (by decide) (forall_mem_of_forall₂ h fun _ _ he => he.allows)
  opens := by
    obtain ⟨more, hmore⟩ := opens_enclose es
    exact ⟨'{', more, hmore, by decide, rfl, by decide⟩
  readValue := by
    intro bound rest hbound _
    cases h with
    | nil => rfl
    | @cons f e fs es hf hall =>
      obtain ⟨hcount, hlengths⟩ := le_of_length_enclose_le hlayout hbound
      rw [← hall.length_eq] at hcount
      have hfields : readFields (Json.readValue bound n) bound [] bound
          (e ++ remainder layout depth es '}' rest) = .ok (f :: fs, rest) :=
        readFields_remainder hlayout hall hf hdistinct hlengths hcount
      rw [enclose_cons, List.cons_append, List.append_assoc, List.append_assoc, remainder_append,
        Json.readValue, hlayout.skipSpace_edge, hf.skipSpace_append]
      obtain ⟨more, hmore⟩ := hf.opens
      rw [hmore, List.cons_append] at hfields ⊢
      split
      · next heq => cases heq
      · rw [hfields]
        rfl

theorem exists_writeItems? {vs : List Value}
    (h : ∀ v ∈ vs, ∃ w, writeAt? layout depth v = some w ∧ Spells layout n v.joined w) :
    ∃ ws, writeItems? layout depth vs = some ws ∧
      List.Forall₂ (Spells layout n) (vs.map Value.joined) ws := by
  induction vs with
  | nil => exact ⟨[], rfl, .nil⟩
  | cons v vs ih =>
    obtain ⟨w, hw, hspells⟩ := h v (by simp)
    obtain ⟨ws, hws, hall⟩ := ih fun v hv => h v (List.mem_cons_of_mem _ hv)
    exact ⟨w :: ws, by rw [writeItems?, hw, hws]; rfl, .cons hspells hall⟩

theorem exists_writeFields? {fs : Fields} (hnames : ∀ f ∈ fs, f.1.Unpaired)
    (h : ∀ f ∈ fs, ∃ w, writeAt? layout depth f.2 = some w ∧ Spells layout n f.2.joined w) :
    ∃ es, writeFields? layout depth fs = some es ∧
      List.Forall₂ (SpellsField layout n) (fs.map fun f => (f.1, f.2.joined)) es := by
  induction fs with
  | nil => exact ⟨[], rfl, .nil⟩
  | cons f fs ih =>
    obtain ⟨w, hw, hspells⟩ := h f (by simp)
    obtain ⟨es, hes, hall⟩ := ih (fun f hf => hnames f (List.mem_cons_of_mem _ hf))
      fun f hf => h f (List.mem_cons_of_mem _ hf)
    refine ⟨(writeString f.1 ++ ": " ++ w) :: es, by rw [writeFields?, hw, hes]; rfl, .cons ?_ hall⟩
    refine ⟨hnames f (by simp), w, hspells, ?_⟩
    rw [List.append_assoc]
    rfl

/-- There is a text for the value, which is read with the halves of pairs joined, whatever follows. -/
theorem Legible.exists_writeAt? (h : Legible n v) (hlayout : layout.IsPlain) (depth : Nat) :
    ∃ w, writeAt? layout depth v = some w ∧ Spells layout n v.joined w := by
  induction h generalizing depth with
  | null => exact ⟨_, rfl, spells_null⟩
  | bool b => exact ⟨_, rfl, spells_bool b⟩
  | @int _ i hi => exact ⟨Text.intText i, by rw [writeAt?, writeInt?_of_isShort hi], spells_int hi⟩
  | text t => exact ⟨_, rfl, spells_text t⟩
  | list _ ih =>
    obtain ⟨ws, hws, hall⟩ := exists_writeItems? fun v hv => ih v hv (depth + 1)
    rw [Value.joined, Value.joinedItems_eq_map]
    exact ⟨_, by rw [writeAt?, hws]; rfl, spells_list hlayout hall⟩
  | object hdistinct hnames _ ih =>
    obtain ⟨es, hes, hall⟩ := exists_writeFields? hnames fun f hf => ih f hf (depth + 1)
    rw [Value.joined, Value.joinedFields_eq_map]
    exact ⟨_, by rw [writeAt?, hes]; rfl, spells_object hlayout hall (by rwa [List.map_map])⟩

theorem parse_append_of_spells (h : Spells layout maxNesting v w) (hrest : Delimited rest)
    (hspace : skipSpace rest = []) : parse (w ++ rest) = .ok v := by
  have hmark : (w ++ rest).head? ≠ some (.char '\uFEFF') := by
    obtain ⟨c, more, rfl, hc, -⟩ := h.opens
    intro heq
    rw [Option.some.inj heq] at hc
    revert hc
    decide
  have hread : readValue (w ++ rest).length maxNesting (w ++ rest) = .ok (v, rest) :=
    h.readValue _ _ (by simp) hrest
  rw [parse, if_neg hmark, h.skipSpace_append, hread]
  simp only [bind, Except.bind, hspace]
  rfl

/-- **A value on a line of its own is read back, with the halves of pairs joined.** -/
theorem Legible.parse_line (h : Legible maxNesting v) :
    ∃ w, write? v = some w ∧ (∀ c ∈ w, c.IsGraphic) ∧ parse (w ++ "\n") = .ok v.joined := by
  obtain ⟨w, hw, hspells⟩ := h.exists_writeAt? Layout.isPlain_line 0
  exact ⟨w, hw, fun c hc => Layout.isGraphic_of_allows_line (hspells.allows c hc),
    parse_append_of_spells hspells (.cons (by decide) []) rfl⟩

/-- **A value that is written over several lines is read back, with the halves of pairs joined.** -/
theorem Legible.parse_pretty (h : Legible maxNesting v) :
    ∃ w, pretty? v = some w ∧ (∀ c ∈ w, c.IsGraphic ∨ c = .char '\n') ∧ parse w = .ok v.joined := by
  obtain ⟨w, hw, hspells⟩ := h.exists_writeAt? Layout.isPlain_indented 0
  have hparse := parse_append_of_spells hspells .nil rfl
  rw [List.append_nil] at hparse
  exact ⟨w, hw, fun c hc => Layout.isGraphic_or_of_allows_indented (hspells.allows c hc), hparse⟩

end Json

end JournalHerald

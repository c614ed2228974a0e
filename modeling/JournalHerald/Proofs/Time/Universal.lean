import JournalHerald.Time.TimestampReader
import JournalHerald.Proofs.Number.Whole
import JournalHerald.Proofs.Text.Numerals

/-!
# Reading back time stamps in universal time

Journal entries carry the time to the second, marked as universal time. Such a time stamp is read as the
moment it was written for.

* `Timestamp.readDate?_isoDate` and `Timestamp.readTime?_clock` read the two halves of a time stamp;
* `Timestamp.ofJournal?_universal` reads the whole.
-/

namespace JournalHerald

namespace Timestamp

open Text (digit)

variable {t : Timestamp}

/-! ### The digits of a field -/

variable {n : Nat} {rest : Text}

theorem takeDigits?_two (h : n < 100) : takeDigits? 2 (Text.zeroPadded 2 n ++ rest) = some (n, rest) := by
  have hvalue : 10 * (n / 10) + n % 10 = n := by omega
  rw [Text.zeroPadded_two h]
  simp [takeDigits?, Text.asciiDigitValue?_digit (show n / 10 < 10 by omega),
    Text.asciiDigitValue?_digit (show n % 10 < 10 by omega), Text.ofDigits, hvalue]

theorem takeDigits?_four (h : n < 10000) : takeDigits? 4 (Text.zeroPadded 4 n ++ rest) = some (n, rest) := by
  have hvalue : 10 * (10 * (10 * (n / 1000) + n / 100 % 10) + n / 10 % 10) + n % 10 = n := by omega
  rw [Text.zeroPadded_four h]
  simp [takeDigits?, Text.asciiDigitValue?_digit (show n / 1000 < 10 by omega),
    Text.asciiDigitValue?_digit (show n / 100 % 10 < 10 by omega),
    Text.asciiDigitValue?_digit (show n / 10 % 10 < 10 by omega),
    Text.asciiDigitValue?_digit (show n % 10 < 10 by omega), Text.ofDigits, hvalue]

/-- The last field of a date or a time of day stands at its end. -/
theorem takeDigits?_last (h : n < 100) : takeDigits? 2 (Text.zeroPadded 2 n) = some (n, []) := by
  rw [← List.append_nil (Text.zeroPadded 2 n)]
  exact takeDigits?_two h

/-! ### Date and time of day -/

/-- The fields have the widths in which a time stamp writes them. -/
structure FitsWidths (t : Timestamp) : Prop where
  year : t.year < 10000
  month : t.month < 100
  day : t.day < 100
  hour : t.hour < 100
  minute : t.minute < 100
  second : t.second < 100

/-- The time of day to the second. -/
def clockText (t : Timestamp) : Text :=
  Text.zeroPadded 2 t.hour ++ ":" ++ Text.zeroPadded 2 t.minute ++ ":" ++ Text.zeroPadded 2 t.second

theorem readDate?_isoDate (h : t.FitsWidths) : readDate? t.isoDate = some (t.year, t.month, t.day) := by
  have hdate : t.isoDate = Text.zeroPadded 4 t.year ++ (.char '-' :: (Text.zeroPadded 2 t.month ++
      (.char '-' :: Text.zeroPadded 2 t.day))) := by
    simp [isoDate, Text.ofString]
  have hmonth : Text.zeroPadded 2 t.month = [digit (t.month / 10), digit (t.month % 10)] :=
    Text.zeroPadded_two h.month
  have hweek : digit (t.month / 10) ≠ .char 'W' := Text.digit_ne_char (by have := h.month; omega) (by decide)
  rw [hdate, readDate?, takeDigits?_four h.year]
  simp only [Option.bind_eq_bind, Option.bind_some, List.head?_cons, List.drop_one, List.tail_cons,
    beq_self_eq_true, if_true, dash?]
  split
  · rename_i hw
    rw [hmonth] at hw
    simp only [List.cons_append] at hw
    exact absurd (List.cons.inj hw).1 hweek
  · simp [takeDigits?_two h.month, takeDigits?_last h.day]

/-- A field in front of a colon, behind which more follows. -/
theorem readUnits?_colon (time : TimeOfDay) (units : Nat) (h : n < 100) (hrest : rest ≠ []) :
    readUnits? time true (units + 1) (Text.zeroPadded 2 n ++ .char ':' :: rest) =
      readUnits? (time.set (2 - units) n) true units rest := by
  obtain ⟨c, rest, rfl⟩ := List.exists_cons_of_ne_nil hrest
  rw [readUnits?, takeDigits?_two h]
  simp

/-- A field at the end. -/
theorem readUnits?_last (time : TimeOfDay) (units : Nat) (h : n < 100) :
    readUnits? time true (units + 1) (Text.zeroPadded 2 n) = some (time.set (2 - units) n) := by
  rw [readUnits?, takeDigits?_last h]
  rfl

theorem readTime?_clockText (h : t.FitsWidths) :
    readTime? t.clockText = some { hour := t.hour, minute := t.minute, second := t.second } := by
  have hclock : t.clockText = Text.zeroPadded 2 t.hour ++ (.char ':' :: (Text.zeroPadded 2 t.minute ++
      (.char ':' :: Text.zeroPadded 2 t.second))) := by
    simp [clockText, Text.ofString]
  have hsecond : Text.zeroPadded 2 t.second ≠ [] := by
    simp [Text.zeroPadded_two h.second]
  have hminute : Text.zeroPadded 2 t.minute ++ .char ':' :: Text.zeroPadded 2 t.second ≠ [] := by
    simp
  rw [hclock, readTime?, readUnits?_colon _ 2 h.hour hminute, readUnits?_colon _ 1 h.minute hsecond,
    readUnits?_last _ 0 h.second]
  rfl

/-! ### The whole time stamp -/

theorem mem_isoDate (h : t.FitsWidths) {c : CodePoint} (hc : c ∈ t.isoDate) :
    (∃ d < 10, c = digit d) ∨ c = '-' := by
  simp only [isoDate, Text.ofString, List.mem_append] at hc
  obtain (((hc | hc) | hc) | hc) | hc := hc
  · exact .inl (Text.mem_zeroPadded_four h.year hc)
  · exact .inr (List.mem_singleton.1 hc)
  · exact .inl (Text.mem_zeroPadded_two h.month hc)
  · exact .inr (List.mem_singleton.1 hc)
  · exact .inl (Text.mem_zeroPadded_two h.day hc)

theorem mem_clockText (h : t.FitsWidths) {c : CodePoint} (hc : c ∈ t.clockText) :
    (∃ d < 10, c = digit d) ∨ c = ':' := by
  simp only [clockText, Text.ofString, List.mem_append] at hc
  obtain (((hc | hc) | hc) | hc) | hc := hc
  · exact .inl (Text.mem_zeroPadded_two h.hour hc)
  · exact .inr (List.mem_singleton.1 hc)
  · exact .inl (Text.mem_zeroPadded_two h.minute hc)
  · exact .inr (List.mem_singleton.1 hc)
  · exact .inl (Text.mem_zeroPadded_two h.second hc)

/-- No mark of an offset stands in front of the offset. -/
theorem not_isOffsetMark_of_mem (h : t.FitsWidths) {c : CodePoint} (hc : c ∈ t.clockText) :
    isOffsetMark c = false := by
  obtain ⟨d, hd, rfl⟩ | rfl := mem_clockText h hc
  · have hplus : digit d ≠ '+' := Text.digit_ne_char hd (by decide)
    have hminus : digit d ≠ '-' := Text.digit_ne_char hd (by decide)
    have hzulu : digit d ≠ 'Z' := Text.digit_ne_char hd (by decide)
    simp [isOffsetMark, hplus, hminus, hzulu]
  · decide

theorem length_isoDate (h : t.FitsWidths) : t.isoDate.length = 10 := by
  rw [isoDate, Text.zeroPadded_four h.year, Text.zeroPadded_two h.month, Text.zeroPadded_two h.day]
  rfl

/-- The text of offset zero. -/
def zeroOffset : Text := "+00:00"

/-- A calendar date in extended form takes ten characters. -/
theorem dateLength?_isoDate (h : t.FitsWidths) (rest : Text) : dateLength? (t.isoDate ++ rest) = some 10 := by
  have hmonth : digit (t.month / 10) ≠ .char 'W' := Text.digit_ne_char (by have := h.month; omega) (by decide)
  have hdash : (t.isoDate ++ rest)[4]? = some (.char '-') := by
    rw [isoDate, Text.zeroPadded_four h.year]
    rfl
  have hweek : (t.isoDate ++ rest)[5]? = some (digit (t.month / 10)) := by
    rw [isoDate, Text.zeroPadded_four h.year, Text.zeroPadded_two h.month]
    rfl
  have hlength : (t.isoDate ++ rest).length ≠ 7 := by
    rw [List.length_append, length_isoDate h]
    omega
  simp only [dateLength?, if_neg hlength]
  simp [hdash, hweek, hmonth]

theorem withoutSurrogate?_eq_self {s : Text} (h : ∀ c ∈ s, c.isSurrogate = false) :
    withoutSurrogate? s = some s := by
  have hplace (i : Nat) : (s[i]?).any CodePoint.isSurrogate = false := by
    rw [Option.any_eq_false]
    intro c hc
    simp [h c (List.mem_of_getElem? hc)]
  have hany : s.any CodePoint.isSurrogate = false := by
    simpa using h
  simp [withoutSurrogate?, hplace, hany]

/-- No code point of a time stamp is a surrogate. -/
theorem not_isSurrogate_of_mem (h : t.FitsWidths) {c : CodePoint}
    (hc : c ∈ t.isoDate ++ .char 'T' :: (t.clockText ++ zeroOffset)) : c.isSurrogate = false := by
  rw [List.mem_append, List.mem_cons, List.mem_append] at hc
  obtain hc | rfl | hc | hc := hc
  · obtain ⟨d, -, rfl⟩ | rfl := mem_isoDate h hc <;> rfl
  · rfl
  · obtain ⟨d, -, rfl⟩ | rfl := mem_clockText h hc <;> rfl
  · revert c
    decide

theorem fields?_iso (h : t.FitsWidths) :
    fields? (t.isoDate ++ .char 'T' :: (t.clockText ++ zeroOffset)) =
      some { t with micro := 0, offset := some .zero } := by
  have hlength : ¬(t.isoDate ++ .char 'T' :: (t.clockText ++ zeroOffset)).length < 7 := by
    rw [List.length_append, length_isoDate h]
    omega
  have hplain := withoutSurrogate?_eq_self fun c hc => not_isSurrogate_of_mem h hc
  have hbefore (c : CodePoint) (hc : c ∈ t.clockText) : (!isOffsetMark c) = true := by
    rw [not_isOffsetMark_of_mem h hc]
    rfl
  have hclock : (t.clockText ++ zeroOffset).takeWhile (fun c => !isOffsetMark c) = t.clockText := by
    rw [List.takeWhile_append_of_pos hbefore]
    exact List.append_nil _
  have hoffset : (t.clockText ++ zeroOffset).dropWhile (fun c => !isOffsetMark c) =
      .char '+' :: Text.ofString "00:00" := by
    rw [List.dropWhile_append_of_pos hbefore]
    rfl
  have hread : readOffset? '+' "00:00" = some .zero := by decide
  rw [fields?, if_neg hlength, hplain]
  simp only [Option.bind_eq_bind, Option.bind_some, dateLength?_isoDate h, ← length_isoDate h, List.take_left,
    List.drop_left, readDate?_isoDate h, hclock, hoffset, readTime?_clockText h, hread, Option.map_some]

/-! ### Moments that a journal can write -/

/-- A moment to the second, in universal time. -/
structure IsUniversal (t : Timestamp) : Prop where
  inRange : t.fault? = none
  whole : t.micro = 0
  utc : t.offset = some .zero

theorem monthLength_le (year month : Nat) : Calendar.monthLength year month ≤ 31 := by
  rw [Calendar.monthLength, List.getD_eq_getElem?_getD]
  cases hmonth : (Calendar.monthLengths year)[month - 1]? with
  | none => exact Nat.zero_le _
  | some days =>
    have hdays := List.mem_of_getElem? hmonth
    revert hdays
    cases hleap : Calendar.isLeap year <;> simp [Calendar.monthLengths, hleap] <;> omega

/-- The ranges of the fields of a moment without a fault. -/
theorem ranges_of_fault? (h : t.fault? = none) :
    (1 ≤ t.year ∧ t.year ≤ 9999) ∧ (1 ≤ t.month ∧ t.month ≤ 12) ∧ (1 ≤ t.day ∧ t.day ≤ 31) ∧
      t.hour ≤ 23 ∧ t.minute ≤ 59 ∧ t.second ≤ 59 := by
  have hday := monthLength_le t.year t.month
  rw [fault?] at h
  split at h
  · cases h
  · split_ifs at h with hyear hmonth hday' hhour hminute hsecond
    omega

namespace IsUniversal

theorem fitsWidths (h : t.IsUniversal) : t.FitsWidths := by
  obtain ⟨hyear, hmonth, hday, hhour, hminute, hsecond⟩ := ranges_of_fault? h.inRange
  constructor <;> omega

/-- The mark of universal time is the only `Z` in a time stamp. -/
theorem universal_flatMap (h : t.IsUniversal) :
    (t.universal.flatMap fun c : CodePoint => if c = 'Z' then Text.ofString "+00:00" else [c]) =
      t.isoDate ++ .char 'T' :: (t.clockText ++ zeroOffset) := by
  have htext : t.universal = t.isoDate ++ .char 'T' :: (t.clockText ++ [.char 'Z']) := by
    simp [universal, iso, isoDate, clockText, Text.ofString]
  have hkeep {s : Text} (hs : ∀ c ∈ s, c ≠ .char 'Z') :
      (s.flatMap fun c : CodePoint => if c = 'Z' then Text.ofString "+00:00" else [c]) = s := by
    induction s with
    | nil => rfl
    | cons c s ih =>
      rw [List.flatMap_cons, if_neg (hs c List.mem_cons_self),
        ih fun d hd => hs d (List.mem_cons_of_mem c hd)]
      rfl
  have hdate (c : CodePoint) (hc : c ∈ t.isoDate) : c ≠ .char 'Z' := by
    obtain ⟨d, hd, rfl⟩ | rfl := mem_isoDate h.fitsWidths hc
    · exact Text.digit_ne_char hd (by decide)
    · decide
  have hclock (c : CodePoint) (hc : c ∈ t.clockText) : c ≠ .char 'Z' := by
    obtain ⟨d, hd, rfl⟩ | rfl := mem_clockText h.fitsWidths hc
    · exact Text.digit_ne_char hd (by decide)
    · decide
  rw [htext, List.flatMap_append, List.flatMap_cons, List.flatMap_append, hkeep hdate, hkeep hclock]
  rfl

/-- A time stamp is read as the moment it was written for. -/
theorem ofJournal?_universal (h : t.IsUniversal) : ofJournal? t.universal = some t := by
  have ht : ({ t with micro := 0, offset := some .zero } : Timestamp) = t := by
    rw [← h.whole, ← h.utc]
  rw [ofJournal?, h.universal_flatMap, ofText?, read, fields?_iso h.fitsWidths, ht]
  simp only [Timestamp.inRange, h.inRange]
  rfl

end IsUniversal

/-! ### Counting seconds -/

/-- The seconds since the start of the day count, by the wall clock. -/
def wallSeconds (t : Timestamp) : Nat :=
  Calendar.ordinal t.year t.month t.day * 86400 + ((t.hour * 60 + t.minute) * 60 + t.second)

theorem wallMicroseconds_eq (h : t.micro = 0) : t.wallMicroseconds = t.wallSeconds * Duration.perSecond := by
  simp only [wallMicroseconds, wallSeconds, h, Duration.perDay, Duration.perSecond]
  omega

theorem foldr_take_monthLengths_le (year n : Nat) :
    ((Calendar.monthLengths year).take n).foldr (· + ·) 0 ≤ 366 := by
  show ((Calendar.monthLengths year).take n).sum ≤ 366
  have hyear : (Calendar.monthLengths year).sum ≤ 366 := by
    cases hleap : Calendar.isLeap year <;> simp [Calendar.monthLengths, hleap]
  rw [← List.take_append_drop n (Calendar.monthLengths year), List.sum_append] at hyear
  omega

namespace IsUniversal

/-- The day count ends before its four millionth day. -/
theorem wallSeconds_lt (h : t.IsUniversal) : t.wallSeconds < 4000000 * 86400 := by
  obtain ⟨hyear, -, hday, hhour, hminute, hsecond⟩ := ranges_of_fault? h.inRange
  have hmonths := foldr_take_monthLengths_le t.year (t.month - 1)
  have hyears : Calendar.daysBeforeYear t.year ≤ 3660000 := by
    simp only [Calendar.daysBeforeYear]
    omega
  simp only [wallSeconds, Calendar.ordinal]
  omega

/-- The span between two moments to the second is a number of seconds. -/
theorem since?_eq {earlier : Timestamp} (h : t.IsUniversal) (hearlier : earlier.IsUniversal)
    (hle : earlier.wallSeconds ≤ t.wallSeconds) :
    t.since? earlier = some (.ofWhole (t.wallSeconds - earlier.wallSeconds)) := by
  have hspan : t.wallMicroseconds - earlier.wallMicroseconds =
      ((t.wallSeconds - earlier.wallSeconds : Nat) : Int) * Duration.perSecond := by
    rw [wallMicroseconds_eq h.whole, wallMicroseconds_eq hearlier.whole, ← Int.sub_mul, Int.ofNat_sub hle]
  simp [since?, h.utc, hearlier.utc, Duration.zero, Duration.ofWhole, hspan]

end IsUniversal

end Timestamp

end JournalHerald

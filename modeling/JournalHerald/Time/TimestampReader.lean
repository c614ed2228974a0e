import JournalHerald.Time.Timestamp

/-!
# Reading time stamps

The formats of ISO 8601 that journal entries may carry: a calendar date or a week date, in basic or
extended form, then optionally a time of day and an offset. Any code point may stand between date and time.

The time of day is read leniently. Hours, minutes and seconds have two digits each, with colons after the
hour throughout or not at all; what remains behind them is a fraction of a second, introduced by a point, a
comma, or nothing; and the reading says with `TimeOfDay.complete` whether it used up its text. Text that is
left over is an error at the end of the stamp and is passed over in front of an offset.

A text also counts as used up in front of the character U+0000, and what follows that is not looked at.

* `Timestamp.fields?` reads the fields, `Timestamp.read` also checks that each is within its range;
* `Timestamp.readDay` reads a date by itself;
* `Timestamp.ofText?` and `Timestamp.ofJournal?` are the moment in a text and in a journal entry.
-/

namespace JournalHerald.Timestamp

/-- Nothing is left of a text, or nothing that counts. -/
def isUsedUp (t : Text) : Bool :=
  t.isEmpty || t.head? == some (.char '\x00')

/-- Read exactly `count` ASCII digits as a number. -/
def takeDigits? (count : Nat) (t : Text) : Option (Nat × Text) := do
  let ds ← (t.take count).mapM Text.asciiDigitValue?
  if ds.length = count then some (Text.ofDigits ds, t.drop count) else none

/-- Where the date ends, for a text of at least seven characters. After a week date the length of the run
of digits tells the day of the week from the time. -/
def dateLength? (t : Text) : Option Nat :=
  let n := t.length
  let isDash (i : Nat) : Bool := t[i]? == some (.char '-')
  let isWeekMark (i : Nat) : Bool := t[i]? == some (.char 'W')
  if n = 7 then some 7
  else if isDash 4 then
    if isWeekMark 5 then
      if n < 8 then none
      else if isDash 8 then
        if n = 9 then none else if (t[10]?).any Text.isAsciiDigit then some 8 else some 10
      else some 8
    else some 10
  else if isWeekMark 4 then
    let run := 7 + ((t.drop 7).takeWhile Text.isAsciiDigit).length
    if run < 9 then some run else if run % 2 = 0 then some 7 else some 8
  else some 8

/-- Read the dash between two parts of a date, where there has to be one. -/
def dash? (dashed : Bool) (t : Text) : Option Text :=
  if dashed then (if t.head? = some (.char '-') then some (t.drop 1) else none) else some t

/-- Read a date. What follows its day is passed over. -/
def readDate? (t : Text) : Option (Nat × Nat × Nat) := do
  let (year, rest) ← takeDigits? 4 t
  let dashed := rest.head? == some (.char '-')
  match if dashed then rest.drop 1 else rest with
  | .char 'W' :: rest => do
    let (week, rest) ← takeDigits? 2 rest
    if rest.isEmpty then Calendar.ofWeek? year week 1
    else
      let rest ← dash? dashed rest
      let (day, _) ← takeDigits? 1 rest
      Calendar.ofWeek? year week day
  | rest => do
    let (month, rest) ← takeDigits? 2 rest
    let rest ← dash? dashed rest
    let (day, _) ← takeDigits? 2 rest
    return (year, month, day)

/-- A time of day or the amount of an offset. -/
structure TimeOfDay where
  hour : Nat := 0
  minute : Nat := 0
  second : Nat := 0
  micro : Nat := 0
  /-- The whole text has been read. -/
  complete : Bool := true

/-- Read a fraction of a second: up to six digits count, further digits are passed over. -/
def readFraction? (time : TimeOfDay) (t : Text) : Option TimeOfDay := do
  let count := min 6 t.length
  let (n, rest) ← takeDigits? count t
  let rest := rest.dropWhile Text.isAsciiDigit
  return { time with micro := n * Nat.pow 10 (6 - count), complete := isUsedUp rest }

/-- Store the unit with the given index: hour, minute or second. -/
def TimeOfDay.set (time : TimeOfDay) (unit value : Nat) : TimeOfDay :=
  match unit with
  | 0 => { time with hour := value }
  | 1 => { time with minute := value }
  | _ => { time with second := value }

/-- Read `units` more units of two digits each, then a fraction. `colons` says whether a colon followed
the first unit. A single ASCII character may be left over. -/
def readUnits? (time : TimeOfDay) (colons : Bool) : Nat → Text → Option TimeOfDay
  | 0, t => readFraction? time t
  | units + 1, t => do
    let (value, rest) ← takeDigits? 2 t
    let time := time.set (2 - units) value
    match rest with
    | [] => return time
    | [c] => if c.toNat < 128 then some { time with complete := isUsedUp [c] } else none
    | c :: rest =>
      let colons := if units = 2 then c == ':' else colons
      if colons && c == ':' then readUnits? time colons units rest
      else if c == '.' || c == ',' then readFraction? time rest
      else if !colons then readUnits? time colons units (c :: rest)
      else none

/-- Read hours, then minutes and seconds and a fraction as far as they are there. -/
def readTime? (t : Text) : Option TimeOfDay :=
  readUnits? {} true 3 t

/-- The sign of an offset, or the letter for the offset zero. -/
def isOffsetMark (c : CodePoint) : Bool :=
  c == '+' || c == '-' || c == 'Z'

/-- Read the offset that `mark` introduces. -/
def readOffset? (mark : CodePoint) (t : Text) : Option Duration :=
  if mark = 'Z' then (if isUsedUp t then some Duration.zero else none)
  else do
    let time ← readTime? t
    let seconds : Int := (time.hour * 60 + time.minute) * 60 + time.second
    if !time.complete then none
    -- an offset below a second counts as none
    else if seconds = 0 then some Duration.zero
    else
      let magnitude := seconds * Duration.perSecond + time.micro
      some ⟨if mark = '-' then -magnitude else magnitude⟩

/-- The text with a letter for the surrogate that may stand between date and time, which is in one of three
places. There is none if a further surrogate is in it. -/
def withoutSurrogate? (t : Text) : Option Text :=
  let place := [7, 8, 10].find? fun i => (t[i]?).any CodePoint.isSurrogate
  let t := match place with
    | some i => t.set i 'T'
    | none => t
  if t.any CodePoint.isSurrogate then none else some t

/-- The fields that a text gives, whatever their ranges. -/
def fields? (t : Text) : Option Timestamp := do
  if t.length < 7 then none
  else
    let t ← withoutSurrogate? t
    let n ← dateLength? t
    let (year, month, day) ← readDate? (t.take n)
    let date : Timestamp :=
      { year, month, day, hour := 0, minute := 0, second := 0, micro := 0, offset := none }
    match t.drop n with
    | [] => some date
    | _ :: clock => do
      let time ← readTime? (clock.takeWhile fun c => !isOffsetMark c)
      let offset ← match clock.dropWhile fun c => !isOffsetMark c with
        | [] => if time.complete then some none else none
        | mark :: rest => (readOffset? mark rest).map some
      some
        { date with
          hour := time.hour, minute := time.minute, second := time.second, micro := time.micro, offset }

/-- The lengths of a date in UTF-8. -/
def dateLengths : List Nat := [7, 8, 10]

/-- The fields that a date by itself gives, whatever their ranges: those of the beginning of the day. -/
def dayFields? (t : Text) : Option Timestamp := do
  if t.any CodePoint.isSurrogate ∨ !dateLengths.contains (t.foldr (·.utf8Size + ·) 0) then none
  else
    let (year, month, day) ← readDate? t
    return { year, month, day, hour := 0, minute := 0, second := 0, micro := 0, offset := none }

/-- The fields that have been read from a text, if there are any and each is within its range. -/
def inRange (t : Text) : Option Timestamp → Except Fault Timestamp
  | none => .error (.unreadable t)
  | some stamp =>
    match stamp.fault? with
    | some fault => .error fault
    | none => .ok stamp

/-- The moment that a text denotes, or what keeps it from denoting one. -/
def read (t : Text) : Except Fault Timestamp :=
  inRange t (fields? t)

/-- The day that a date denotes, or what keeps it from denoting one. -/
def readDay (t : Text) : Except Fault Timestamp :=
  inRange t (dayFields? t)

/-- The moment that a text denotes. -/
def ofText? (t : Text) : Option Timestamp :=
  (read t).toOption

/-- The moment of a journal entry: a `Z` anywhere stands for the offset zero. -/
def ofJournal? (t : Text) : Option Timestamp :=
  ofText? (t.flatMap fun c : CodePoint => if c = 'Z' then Text.ofString "+00:00" else [c])

end JournalHerald.Timestamp

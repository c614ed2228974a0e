import JournalHerald.Time.Calendar
import JournalHerald.Time.Duration
import JournalHerald.Text.Quoted

/-!
# Time stamps

A moment on the calendar, with or without an offset from universal time.

* `Timestamp.fault?` finds a field out of its range, `Timestamp.Fault` says what is wrong;
* `Timestamp.since?` is the span between two moments, which have to agree on whether they have an offset;
* `Timestamp.iso` writes a moment in the extended format of ISO 8601, `Timestamp.isoDate` its date;
* `Timestamp.secondsToNextHour` is what is left of the hour on the wall clock;
* `Timestamp.ofUnix` is the moment that a system clock shows, `Timestamp.universal` its text for log lines.
-/

namespace JournalHerald

/-- A date and a time of day. -/
structure Timestamp where
  year : Nat
  month : Nat
  day : Nat
  hour : Nat
  minute : Nat
  second : Nat
  micro : Nat
  /-- The offset from universal time, if known. -/
  offset : Option Duration
  deriving DecidableEq, Repr, Inhabited

namespace Timestamp

/-- What keeps a text from denoting a moment. -/
inductive Fault where
  /-- The text is in none of the formats. -/
  | unreadable (text : Text)
  /-- The offset is a day or longer. -/
  | wideOffset (offset : Duration)
  | year (n : Nat)
  | month
  | day
  | hour
  | minute
  | second
  deriving DecidableEq, Repr

/-- A fault in words. -/
def Fault.message : Fault → Text
  | .unreadable t => "Invalid isoformat string: " ++ Text.quoted t
  | .wideOffset o =>
    "offset must be a timedelta strictly between -timedelta(hours=24) and timedelta(hours=24), not " ++
      o.literal ++ "."
  | .year n => "year " ++ Text.natText n ++ " is out of range"
  | .month => "month must be in 1..12"
  | .day => "day is out of range for month"
  | .hour => "hour must be in 0..23"
  | .minute => "minute must be in 0..59"
  | .second => "second must be in 0..59"

/-- The first field that is not within its range. An offset is shorter than a day, and the years are 1 to
9999. -/
def fault? (t : Timestamp) : Option Fault :=
  match t.offset.filter fun o => Duration.perDay ≤ o.microseconds.natAbs with
  | some offset => some (.wideOffset offset)
  | none =>
    if t.year < 1 ∨ 9999 < t.year then some (.year t.year)
    else if t.month < 1 ∨ 12 < t.month then some .month
    else if t.day < 1 ∨ Calendar.monthLength t.year t.month < t.day then some .day
    else if 23 < t.hour then some .hour
    else if 59 < t.minute then some .minute
    else if 59 < t.second then some .second
    else none

/-- The microseconds since the start of the day count, by the wall clock. -/
def wallMicroseconds (t : Timestamp) : Int :=
  (Calendar.ordinal t.year t.month t.day : Int) * Duration.perDay +
    ((t.hour * 60 + t.minute) * 60 + t.second : Nat) * Duration.perSecond + t.micro

/-- The span from one moment to another. There is none between a moment with an offset and one
without. -/
def since? (later earlier : Timestamp) : Option Duration :=
  match later.offset, earlier.offset with
  | none, none => some ⟨later.wallMicroseconds - earlier.wallMicroseconds⟩
  | some a, some b =>
    some ⟨(later.wallMicroseconds - a.microseconds) - (earlier.wallMicroseconds - b.microseconds)⟩
  | _, _ => none

/-- An offset as a sign with hours and minutes, then seconds and microseconds if there are any. -/
def offsetText (o : Duration) : Text :=
  let d : Duration := ⟨o.microseconds.natAbs⟩
  let s := d.seconds
  let sign : Text := if o.microseconds < 0 then "-" else "+"
  let seconds : Text := if s % 60 = 0 ∧ d.micros = 0 then "" else ":" ++ Text.zeroPadded 2 (s % 60)
  let fraction : Text := if d.micros = 0 then "" else "." ++ Text.zeroPadded 6 d.micros
  sign ++ Text.zeroPadded 2 (s / 3600) ++ ":" ++ Text.zeroPadded 2 (s / 60 % 60) ++ seconds ++ fraction

/-- The date. -/
def isoDate (t : Timestamp) : Text :=
  Text.zeroPadded 4 t.year ++ "-" ++ Text.zeroPadded 2 t.month ++ "-" ++ Text.zeroPadded 2 t.day

/-- Date and time with `separator` between them. -/
def iso (separator : Text) (t : Timestamp) : Text :=
  let fraction : Text := if t.micro = 0 then "" else "." ++ Text.zeroPadded 6 t.micro
  t.isoDate ++ separator ++ Text.zeroPadded 2 t.hour ++ ":" ++ Text.zeroPadded 2 t.minute ++ ":" ++
    Text.zeroPadded 2 t.second ++ fraction ++ (t.offset.map offsetText).getD []

/-- The date, written out. -/
def dateLiteral (t : Timestamp) : Text :=
  "datetime.date(" ++ Text.joinWith ", " ([t.year, t.month, t.day].map Text.natText) ++ ")"

/-- Date, time and offset, written out. Seconds and microseconds are left off if nothing follows. -/
def literal (t : Timestamp) : Text :=
  let clock :=
    if t.micro ≠ 0 then [t.hour, t.minute, t.second, t.micro]
    else if t.second ≠ 0 then [t.hour, t.minute, t.second] else [t.hour, t.minute]
  let zone : List Text := match t.offset with
    | none => []
    | some o =>
      if o.microseconds = 0 then ["tzinfo=datetime.timezone.utc"]
      else ["tzinfo=datetime.timezone(" ++ o.literal ++ ")"]
  "datetime.datetime(" ++
    Text.joinWith ", " (([t.year, t.month, t.day] ++ clock).map Text.natText ++ zone) ++ ")"

/-- The number of the day on which the count of system clocks begins. -/
def unixDay : Nat := Calendar.ordinal 1970 1 1

/-- The moment so many microseconds after the beginning of 1970, in universal time. -/
def ofUnix (microseconds : Nat) : Timestamp :=
  let seconds := microseconds / 1000000
  let (year, month, day) := Calendar.ofOrdinal (unixDay + seconds / 86400)
  { year, month, day
    hour := seconds % 86400 / 3600
    minute := seconds / 60 % 60
    second := seconds % 60
    micro := microseconds % 1000000
    offset := some Duration.zero }

/-- Date and time to the second, marked as universal time. -/
def universal (t : Timestamp) : Text :=
  { t with micro := 0, offset := none }.iso "T" ++ "Z"

/-- The seconds left of the hour. On the hour itself a whole hour is left. -/
def secondsToNextHour (t : Timestamp) : Double :=
  let past := Double.add (Double.ofInt (t.minute * 60 + t.second : Nat))
    (Double.ofRatio false t.micro 1000000)
  let left := Double.sub (Double.ofInt 3600) past
  if left.isZero || left.isNegative then Double.ofInt 3600 else left

end Timestamp

end JournalHerald

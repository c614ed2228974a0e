import JournalHerald.Number.Double
import JournalHerald.Text.Digits

/-!
# Durations

A duration is a whole number of microseconds. It has a day part, which carries the sign, a second part
within the day and a microsecond part within the second.

* `Duration.describe` names days, hours and minutes, as play times are shown;
* `Duration.clock` and `Duration.literal` are its plain and its written-out form;
* `Duration.ofSeconds?` and `Duration.totalSeconds` convert from and to a number of seconds.
-/

namespace JournalHerald

/-- A signed span of time. -/
structure Duration where
  /-- The length in microseconds. -/
  microseconds : Int
  deriving DecidableEq, Repr, Inhabited

namespace Duration

/-- Microseconds in a second. -/
def perSecond : Int := 1000000

/-- Microseconds in a day. -/
def perDay : Int := 86400000000

/-- The empty span. -/
def zero : Duration := ⟨0⟩

/-- The span of so many days, seconds and microseconds, which need not be within their ranges. -/
def ofParts (days seconds micros : Int) : Duration :=
  ⟨days * perDay + seconds * perSecond + micros⟩

/-- The whole days, rounded down. -/
def days (d : Duration) : Int := d.microseconds / perDay

/-- The seconds past the whole days. -/
def seconds (d : Duration) : Nat := (d.microseconds % perDay / perSecond).toNat

/-- The microseconds past the whole seconds. -/
def micros (d : Duration) : Nat := (d.microseconds % perSecond).toNat

/-- The span has at most 999999999 days in either direction. -/
def isRepresentable (d : Duration) : Bool :=
  -999999999 ≤ d.days && d.days ≤ 999999999

/-- Days, hours and minutes in words, `?` aside: the words alone stand for an unknown duration. -/
def describe : Option Duration → Text
  | none => " days  hours  minutes"
  | some d =>
    let minutes := d.seconds / 60
    Text.intText d.days ++ " days " ++ Text.natText (minutes / 60) ++ " hours " ++
      Text.natText (minutes % 60) ++ " minutes"

/-- Days if there are any, then hours, minutes and seconds, then microseconds if there are any. -/
def clock (d : Duration) : Text :=
  let n := d.days
  let unit : Text := if n.natAbs = 1 then " day, " else " days, "
  let dayText : Text := if n = 0 then "" else Text.intText n ++ unit
  let s := d.seconds
  let time := Text.natText (s / 3600) ++ ":" ++ Text.zeroPadded 2 (s / 60 % 60) ++ ":" ++
    Text.zeroPadded 2 (s % 60)
  let fraction : Text := if d.micros = 0 then "" else "." ++ Text.zeroPadded 6 d.micros
  dayText ++ time ++ fraction

/-- The parts that are not zero, by name. -/
def literal (d : Duration) : Text :=
  let part (name : Text) (n : Int) : List Text :=
    if n = 0 then [] else [name ++ "=" ++ Text.intText n]
  let parts := part "days" d.days ++ part "seconds" d.seconds ++ part "microseconds" d.micros
  let inner : Text := if parts.isEmpty then "0" else Text.joinWith ", " parts
  "datetime.timedelta(" ++ inner ++ ")"

/-- The length in seconds, rounded once. -/
def totalSeconds (d : Duration) : Double :=
  Double.ofRatio (decide (d.microseconds < 0)) d.microseconds.natAbs 1000000

/-- The whole number nearest to `n + x` for a finite `x`, ties to the even one. -/
def roundFrom (n : Int) : Double → Int
  | .finite s m e =>
    let (num, den) := if 0 ≤ e then (m * Nat.pow 2 e.toNat, 1) else (m, Nat.pow 2 (-e).toNat)
    let total := n * den + Double.signed s num
    let q := total / den
    let r := total % den
    if (den : Int) < 2 * r ∨ (2 * r = den ∧ q % 2 = 1) then q + 1 else q
  | _ => n

/-- The span of so many seconds. The whole seconds count exactly, and the fraction is scaled to
microseconds before it is rounded. Infinite and undefined numbers have none. -/
def ofSeconds? (x : Double) : Option Duration := do
  let whole ← x.toInt?
  let scaled := Double.mul (Double.ofInt perSecond) x.fraction
  let part ← scaled.toInt?
  let d : Duration := ⟨roundFrom (whole * perSecond + part) scaled.fraction⟩
  if d.isRepresentable then some d else none

end Duration

end JournalHerald

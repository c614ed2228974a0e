import JournalHerald.Number.Double

/-!
# The clockwork

While the herald runs, an alarm is set for the next full hour. The clockwork remembers the alarm that it set
last; to stop the clockwork cancels that alarm. An alarm that goes off is no longer pending, but the clockwork
may still remember it.

* `Clockwork` is the state, `Clockwork.stop`, `Clockwork.run`, `Clockwork.set` and `Clockwork.goOff` change it,
  each in one piece.
-/

namespace JournalHerald.Herald

/-- An alarm. -/
structure Alarm where
  /-- Alarms are numbered in the order in which they are set. -/
  number : Nat
  /-- The seconds from the setting of the alarm until it goes off. -/
  delay : Double
  deriving DecidableEq, Repr

/-- The whole milliseconds from the setting of the alarm until it goes off, with one more to be past it. -/
def Alarm.milliseconds (a : Alarm) : Nat :=
  ((Double.mul (Double.ofInt 1000) a.delay).toInt?.getD 0).toNat + 1

/-- Whether the herald runs, and its alarms. -/
structure Clockwork where
  running : Bool := false
  /-- The alarm that was set last, until it is cancelled. -/
  remembered : Option Alarm := none
  /-- The alarms that have neither gone off nor been cancelled. -/
  pending : List Alarm := []
  /-- How many alarms have been set. -/
  count : Nat := 0
  deriving DecidableEq, Repr, Inhabited

namespace Clockwork

/-- Cancel the alarm that is remembered. -/
def cancel (c : Clockwork) : Clockwork :=
  match c.remembered with
  | some alarm =>
    { c with remembered := none, pending := c.pending.filter fun a => a.number != alarm.number }
  | none => c

/-- End the running state and cancel the alarm that is remembered. -/
def stop (c : Clockwork) : Clockwork :=
  { c with running := false }.cancel

/-- Begin the running state. -/
def run (c : Clockwork) : Clockwork :=
  { c with running := true }

/-- Set an alarm and remember it, provided that the herald runs. -/
def set (delay : Double) (c : Clockwork) : Clockwork :=
  if c.running then
    let alarm : Alarm := ⟨c.count, delay⟩
    { c with remembered := some alarm, pending := c.pending ++ [alarm], count := c.count + 1 }
  else c

/-- An alarm goes off. -/
def goOff (alarm : Alarm) (c : Clockwork) : Clockwork :=
  { c with pending := c.pending.filter fun a => a.number != alarm.number }

end Clockwork

end JournalHerald.Herald

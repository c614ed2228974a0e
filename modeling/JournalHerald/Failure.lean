import JournalHerald.Json.Fault
import JournalHerald.Schema.Problem

/-!
# Failures

What can go wrong while an entry is taken in or a message is composed. A failure ends the step that it
occurs in and nothing else; the step is left out and the failure is reported.
-/

namespace JournalHerald

/-- Why a step fails. -/
inductive Failure where
  /-- The data kept do not fit the shape of the answer. -/
  | invalid (problems : List Schema.Problem)
  /-- A count is no number. -/
  | notCount
  /-- A count is a text that denotes no number. -/
  | unreadableCount (text : Text)
  /-- A count is a text with too many digits. -/
  | oversizedCount (digits : Nat)
  /-- A count is an undefined number. -/
  | undefinedCount
  /-- A count is infinite. -/
  | infiniteCount
  /-- A list of open missions is no list of objects. -/
  | malformedMissions
  /-- A time stamp with an offset and one without cannot be compared. -/
  | mixedOffsets
  /-- A span of time is too long. -/
  | hugeDuration
  /-- A value has too many lists and objects within one another to be written. -/
  | deepValue
  /-- A whole number has too many digits to be written. -/
  | longNumber
  /-- The source is out of order. -/
  | unavailable (reason : Text)
  deriving Repr

/-- How much of a quoted text a failure shows. -/
def shownLength : Nat := 200

/-- A failure in words. -/
def Failure.message : Failure → Text
  | .invalid problems => Text.joinWith "\n" (problems.map Schema.Problem.text)
  | .notCount => "int() argument must be a string, a bytes-like object or a real number"
  | .unreadableCount text =>
    "invalid literal for int() with base 10: " ++ (Text.quoted text).take shownLength
  | .oversizedCount digits => (Json.Fault.longInteger digits).message
  | .undefinedCount => "cannot convert float NaN to integer"
  | .infiniteCount => "cannot convert float infinity to integer"
  | .malformedMissions => "the open missions are not listed as objects"
  | .mixedOffsets => "can't subtract offset-naive and offset-aware datetimes"
  | .hugeDuration => "days out of range"
  | .deepValue => "maximum recursion depth exceeded while getting the repr of an object"
  | .longNumber =>
    "Exceeds the limit (" ++ Text.natText Json.maxDigits ++ " digits) for integer string conversion; " ++
      "use sys.set_int_max_str_digits() to increase the limit"
  | .unavailable reason => reason

end JournalHerald

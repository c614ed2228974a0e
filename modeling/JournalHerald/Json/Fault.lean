import JournalHerald.Text.Digits

/-!
# Faults of JSON texts

Why a text is not JSON, and where. A fault is found at a place that is told by how much text remains; its
line and column count from one, its offset from zero.
-/

namespace JournalHerald.Json

/-- What is wrong with a text. -/
inductive Fault where
  | expectedValue
  | expectedName
  | expectedColon
  | expectedComma
  | openString
  | controlCharacter
  | badEscape
  | badCodePoint
  | trailingText
  | byteOrderMark
  /-- A whole number with more digits than are accepted. -/
  | longInteger (digits : Nat)
  /-- Lists and objects within one another past the accepted depth. -/
  | deepNesting
  deriving DecidableEq, Repr

/-- A fault and the length of the text that remains where it was found. -/
structure ReadError where
  fault : Fault
  remaining : Nat
  deriving DecidableEq, Repr

/-- The most digits of a whole number. -/
def maxDigits : Nat := 4300

/-- The most lists and objects around a value. -/
def maxNesting : Nat := 990

/-- A fault in words. -/
def Fault.message : Fault → Text
  | .expectedValue => "Expecting value"
  | .expectedName => "Expecting property name enclosed in double quotes"
  | .expectedColon => "Expecting ':' delimiter"
  | .expectedComma => "Expecting ',' delimiter"
  | .openString => "Unterminated string starting at"
  | .controlCharacter => "Invalid control character at"
  | .badEscape => "Invalid \\escape"
  | .badCodePoint => "Invalid \\uXXXX escape"
  | .trailingText => "Extra data"
  | .byteOrderMark => "Unexpected UTF-8 BOM (decode using utf-8-sig)"
  | .longInteger digits =>
    "Exceeds the limit (" ++ Text.natText maxDigits ++ " digits) for integer string conversion: " ++
      "value has " ++ Text.natText digits ++
      " digits; use sys.set_int_max_str_digits() to increase the limit"
  | .deepNesting => "maximum recursion depth exceeded while decoding a JSON array from a unicode string"

/-- The fault is one of the grammar, not one of size. -/
def Fault.isSyntax : Fault → Bool
  | .longInteger _ | .deepNesting => false
  | _ => true

/-- The fault in words together with its place in the text it was found in. -/
def ReadError.message (e : ReadError) (text : Text) : Text :=
  if e.fault.isSyntax then
    let before := text.take (text.length - e.remaining)
    let line := before.count (.char '\n') + 1
    let column := (before.reverse.takeWhile (· != .char '\n')).length + 1
    e.fault.message ++ ": line " ++ Text.natText line ++ " column " ++ Text.natText column ++
      " (char " ++ Text.natText before.length ++ ")"
  else e.fault.message

end JournalHerald.Json

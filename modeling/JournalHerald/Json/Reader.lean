import JournalHerald.Json.Fault
import JournalHerald.Value

/-!
# Reading JSON

A reader of JSON texts that keeps the order of the fields, the difference between whole and broken numbers,
and whole numbers of any size. Beyond the standard it accepts `NaN`, `Infinity` and `-Infinity`. A field
that is repeated keeps its first place and its last value. Two escapes for the halves of a surrogate pair
read as one character; an escape for half a pair alone reads as a surrogate.

* `readValue` reads one value at the head of a text, within bounds for its size and its nesting;
* `parse` reads a whole text.
-/

namespace JournalHerald.Json

/-- Report a fault in front of the remaining text. -/
def failAt {α : Type} (fault : Fault) (rest : Text) : Except ReadError α :=
  .error ⟨fault, rest.length⟩

/-- The characters that may stand between the tokens. -/
def isSpace (c : CodePoint) : Bool :=
  c == ' ' || c == '\t' || c == '\n' || c == '\r'

/-- Drop the blanks at the head. -/
def skipSpace (t : Text) : Text :=
  t.dropWhile isSpace

/-- What remains behind a word at the head. -/
def after? : Text → Text → Option Text
  | [], t => some t
  | _ :: _, [] => none
  | w :: ws, c :: t => if w = c then after? ws t else none

/-! ## Strings -/

/-- The value of a hexadecimal digit. -/
def hexValue? (c : CodePoint) : Option Nat :=
  let n := c.toNat
  if 48 ≤ n ∧ n ≤ 57 then some (n - 48)
  else if 97 ≤ n ∧ n ≤ 102 then some (n - 87)
  else if 65 ≤ n ∧ n ≤ 70 then some (n - 55)
  else none

/-- Four hexadecimal digits at the head, behind which the text goes on. -/
def hex4? : Text → Option (Nat × Text)
  | a :: b :: c :: d :: e :: rest => do
    let a ← hexValue? a
    let b ← hexValue? b
    let c ← hexValue? c
    let d ← hexValue? d
    return (((a * 16 + b) * 16 + c) * 16 + d, e :: rest)
  | _ => none

/-- The first half of a surrogate pair. -/
def isHighSurrogate (n : Nat) : Bool := 0xD800 ≤ n && n < 0xDC00

/-- The second half of a surrogate pair. -/
def isLowSurrogate (n : Nat) : Bool := 0xDC00 ≤ n && n < 0xE000

/-- The number of the character that the two halves of a pair stand for. -/
def joinHalves (high low : Nat) : Nat :=
  0x10000 + (high - 0xD800) * 0x400 + (low - 0xDC00)

/-- Read the four digits of a code point escape, and a second escape if the two make up a pair. The text
begins with the `u` of the escape. -/
def readCodePoint (t : Text) : Except ReadError (CodePoint × Text) :=
  match hex4? (t.drop 1) with
  | none => failAt .badCodePoint t
  | some (n, rest) =>
    if isHighSurrogate n then
      match rest with
      | .char '\\' :: .char 'u' :: a :: b :: c :: d :: e :: more =>
        match hex4? (a :: b :: c :: d :: e :: more) with
        | none => failAt .badCodePoint (rest.drop 1)
        | some (m, rest') =>
          if isLowSurrogate m then .ok (.ofNat (joinHalves n m), rest') else .ok (.ofNat n, rest)
      | _ => .ok (.ofNat n, rest)
    else .ok (.ofNat n, rest)

/-- The character that a one-letter escape stands for. -/
def simpleEscape? : CodePoint → Option Char
  | .char '"' => some '"'
  | .char '\\' => some '\\'
  | .char '/' => some '/'
  | .char 'b' => some '\x08'
  | .char 'f' => some '\x0c'
  | .char 'n' => some '\n'
  | .char 'r' => some '\r'
  | .char 't' => some '\t'
  | _ => none

/-- Read an escape. `opening` is the text from the quote that opened the string, `t` the text from the
backslash. -/
def readEscape (opening t : Text) : Except ReadError (CodePoint × Text) :=
  match t.drop 1 with
  | [] => failAt .openString opening
  | .char 'u' :: rest => readCodePoint ('u' :: rest)
  | c :: rest =>
    match simpleEscape? c with
    | some d => .ok (d, rest)
    | none => failAt .badEscape t

/-- A code point that stands for itself inside a string. -/
def isPlain (c : CodePoint) : Bool :=
  c != '"' && c != '\\' && 32 ≤ c.toNat

/-- Read a string up to its closing quote. The number bounds how many escapes there are. -/
def readChars (opening : Text) : Nat → Text → Except ReadError (Text × Text)
  | 0, _ => failAt .openString opening
  | n + 1, t =>
    let plain := t.takeWhile isPlain
    match t.dropWhile isPlain with
    | [] => failAt .openString opening
    | .char '"' :: rest => .ok (plain, rest)
    | .char '\\' :: rest => do
      let (c, rest) ← readEscape opening ('\\' :: rest)
      let (more, rest) ← readChars opening n rest
      return (plain ++ c :: more, rest)
    | c :: rest => failAt .controlCharacter (c :: rest)

/-- Read a string whose opening quote is the head of the text, with fewer escapes than `bound`. -/
def readString (bound : Nat) (t : Text) : Except ReadError (Text × Text) :=
  readChars t bound (t.drop 1)

/-! ## Numbers -/

/-- The digits at the head and what remains behind them. -/
def spanDigits (t : Text) : Text × Text :=
  (t.takeWhile Text.isAsciiDigit, t.dropWhile Text.isAsciiDigit)

/-- The number that ASCII digits denote. -/
def digitsValue (ds : Text) : Nat :=
  Text.ofDigits (ds.map fun c => c.toNat - 48)

/-- The whole part of a number: a zero, or digits that begin with another one. -/
def wholePart? : Text → Option (Text × Text)
  | .char '0' :: rest => some (['0'], rest)
  | c :: rest => if Text.isAsciiDigit c then some (spanDigits (c :: rest)) else none
  | [] => none

/-- The digits behind a decimal point; a point without digits behind it is not part of the number. -/
def fractionPart (t : Text) : Text × Text :=
  match t with
  | .char '.' :: rest => if (spanDigits rest).1.isEmpty then ([], t) else spanDigits rest
  | _ => ([], t)

/-- The exponent; a mark without digits behind it is not part of the number. -/
def exponentPart (t : Text) : Option Int × Text :=
  match t with
  | c :: rest =>
    if c = 'e' ∨ c = 'E' then
      let negative := rest.head? == some (.char '-')
      let rest := if negative || rest.head? == some (.char '+') then rest.drop 1 else rest
      let (ds, rest) := spanDigits rest
      if ds.isEmpty then (none, t)
      else (some (Double.signed negative (digitsValue ds)), rest)
    else (none, t)
  | [] => (none, [])

/-- Read a number. It is whole if it has neither a fraction nor an exponent. -/
def readNumber (t : Text) : Except ReadError (Value × Text) :=
  let negative := t.head? == some (.char '-')
  match wholePart? (if negative then t.drop 1 else t) with
  | none => failAt .expectedValue t
  | some (whole, rest) =>
    let (fraction, rest) := fractionPart rest
    let (exponent, rest) := exponentPart rest
    if fraction.isEmpty && exponent.isNone then
      if maxDigits < whole.length then failAt (.longInteger whole.length) t
      else .ok (.int (Double.signed negative (digitsValue whole)), rest)
    else
      .ok (.float (Double.ofDecimal negative (digitsValue (whole ++ fraction))
        (exponent.getD 0 - fraction.length)), rest)

/-! ## Values -/

/-- The words that stand for a value. -/
def words : List (Text × Value) :=
  [("null", .null), ("true", .bool true), ("false", .bool false), ("NaN", .float .nan),
   ("Infinity", .float (.infinite false)), ("-Infinity", .float (.infinite true))]

/-- Read a word or a number. -/
def readScalar (t : Text) : Except ReadError (Value × Text) :=
  match words.findSome? fun w => (after? w.1 t).map fun rest => (w.2, rest) with
  | some (v, rest) => .ok (v, rest)
  | none => readNumber t

/-- Read the items of a list from the first item on, up to the closing bracket. The number bounds how
many there are. -/
def readItems (item : Text → Except ReadError (Value × Text)) :
    Nat → Text → Except ReadError (List Value × Text)
  | 0, t => failAt .expectedComma t
  | n + 1, t => do
    let (v, rest) ← item t
    match skipSpace rest with
    | .char ']' :: rest => return ([v], rest)
    | .char ',' :: rest => do
      let (vs, rest) ← readItems item n (skipSpace rest)
      return (v :: vs, rest)
    | rest => failAt .expectedComma rest

/-- Read the fields of an object from the first name on, up to the closing brace. The number bounds how
many there are, `bound` how many escapes a name has, and `fields` are those read before. -/
def readFields (item : Text → Except ReadError (Value × Text)) (bound : Nat) (fields : Fields) :
    Nat → Text → Except ReadError (Fields × Text)
  | 0, t => failAt .expectedComma t
  | n + 1, t =>
    match t with
    | .char '"' :: _ => do
      let (name, rest) ← readString bound t
      match skipSpace rest with
      | .char ':' :: rest => do
        let (v, rest) ← item (skipSpace rest)
        let fields := fields.set name v
        match skipSpace rest with
        | .char '}' :: rest => return (fields, rest)
        | .char ',' :: rest => readFields item bound fields n (skipSpace rest)
        | rest => failAt .expectedComma rest
      | rest => failAt .expectedColon rest
    | rest => failAt .expectedName rest

/-- Read the value at the head of a text, with at most `nesting` lists and objects around any part of
it and at most `bound` items, fields or escapes in each of them. -/
def readValue (bound nesting : Nat) (t : Text) : Except ReadError (Value × Text) :=
  match t with
  | .char '"' :: _ => do
    let (s, rest) ← readString bound t
    return (.text s, rest)
  | .char '[' :: rest =>
    match nesting with
    | 0 => failAt .deepNesting rest
    | nesting + 1 =>
      match skipSpace rest with
      | .char ']' :: rest => .ok (.list [], rest)
      | rest => do
        let (vs, rest) ← readItems (readValue bound nesting) bound rest
        return (.list vs, rest)
  | .char '{' :: rest =>
    match nesting with
    | 0 => failAt .deepNesting rest
    | nesting + 1 =>
      match skipSpace rest with
      | .char '}' :: rest => .ok (.object [], rest)
      | rest => do
        let (fields, rest) ← readFields (readValue bound nesting) bound [] bound rest
        return (.object fields, rest)
  | _ => readScalar t

/-- Read a whole text, with blanks allowed around its value. Nothing in it is more numerous
than its characters. -/
def parse (t : Text) : Except ReadError Value :=
  if t.head? = some (.char '\uFEFF') then failAt .byteOrderMark t
  else do
    let (v, rest) ← readValue t.length maxNesting (skipSpace t)
    match skipSpace rest with
    | [] => return v
    | rest => failAt .trailingText rest

end JournalHerald.Json

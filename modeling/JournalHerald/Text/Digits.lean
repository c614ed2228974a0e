import JournalHerald.Text

/-!
# Numbers in texts

Whole numbers in decimal, written and read.

* `digitValue?` gives the value of a decimal digit of any script;
* `numeral?` reads the digits at the head of a text, behind an optional sign, where a single underscore may
  separate two digits;
* `padded` writes a number with leading zeros, behind its sign.
-/

namespace JournalHerald.Text

/-- The characters for zero that begin a run of ten decimal digits. -/
def digitZeros : List Nat :=
  [48, 1632, 1776, 1984, 2406, 2534, 2662, 2790, 2918, 3046, 3174, 3302, 3430, 3558, 3664, 3792,
   3872, 4160, 4240, 6112, 6160, 6470, 6608, 6784, 6800, 6992, 7088, 7232, 7248, 42528, 43216,
   43264, 43472, 43504, 43600, 44016, 65296, 66720, 68912, 69734, 69872, 69942, 70096, 70384,
   70736, 70864, 71248, 71360, 71472, 71904, 72016, 72784, 73040, 73120, 92768, 92864, 93008,
   120782, 120792, 120802, 120812, 120822, 123200, 123632, 125264, 130032]

/-- The value of an ASCII digit. -/
def asciiDigitValue? (c : CodePoint) : Option Nat :=
  if 48 ≤ c.toNat ∧ c.toNat ≤ 57 then some (c.toNat - 48) else none

/-- An ASCII digit. -/
def isAsciiDigit (c : CodePoint) : Bool :=
  (asciiDigitValue? c).isSome

/-- The value of a decimal digit of any script. -/
def digitValue? (c : CodePoint) : Option Nat :=
  (digitZeros.find? fun z => z ≤ c.toNat && c.toNat < z + 10).map (c.toNat - ·)

/-- The number that a list of digits denotes, most significant first. -/
def ofDigits (digits : List Nat) : Nat :=
  digits.foldl (fun n d => 10 * n + d) 0

/-- Read digits in which a single underscore may stand between two of them; `afterDigit` says that
one has just been read. -/
def groupedDigits? (afterDigit : Bool) : Text → Option (List Nat)
  | [] => if afterDigit then some [] else none
  | c :: rest =>
    if c = '_' then (if afterDigit then groupedDigits? false rest else none)
    else do
      let d ← digitValue? c
      let ds ← groupedDigits? true rest
      return d :: ds

/-- The head of a text, read as a whole number, and what follows it. -/
structure Numeral where
  negative : Bool
  digits : List Nat
  rest : Text
  deriving DecidableEq, Repr

/-- The whole number that a numeral denotes. -/
def Numeral.value (n : Numeral) : Int :=
  if n.negative then -(ofDigits n.digits : Int) else ofDigits n.digits

/-- A digit of any script or an underscore. -/
def isNumeralPart (c : CodePoint) : Bool :=
  (digitValue? c).isSome || c == '_'

/-- Read digits and underscores as far as they go, behind a sign. -/
def unsignedNumeral? (negative : Bool) (t : Text) : Option Numeral :=
  (groupedDigits? false (t.takeWhile isNumeralPart)).map fun digits =>
    ⟨negative, digits, t.dropWhile isNumeralPart⟩

/-- Read an optional sign, and behind it digits and underscores as far as they go. -/
def numeral? : Text → Option Numeral
  | .char '-' :: rest => unsignedNumeral? true rest
  | .char '+' :: rest => unsignedNumeral? false rest
  | t => unsignedNumeral? false t

/-- The decimal digits of a natural number. -/
def natText (n : Nat) : Text :=
  (Nat.toDigits 10 n).map CodePoint.char

/-- A whole number in decimal, with a sign if it is negative. -/
def intText (i : Int) : Text :=
  if i < 0 then '-' :: natText i.natAbs else natText i.natAbs

/-- A natural number with zeros in front up to `width` digits. -/
def zeroPadded (width n : Nat) : Text :=
  let digits := natText n
  List.replicate (width - digits.length) (.char '0') ++ digits

/-- A whole number with zeros between its sign and its digits, up to `width` characters in all. -/
def padded (width : Nat) (i : Int) : Text :=
  if i < 0 then '-' :: zeroPadded (width - 1) i.natAbs else zeroPadded width i.natAbs

end JournalHerald.Text

import JournalHerald.Text.Ranges
import JournalHerald.Text.PrintableTable

/-!
# Quoted texts

The written form of a text inside a list or an object. It stands in single quotes, or in double quotes if
it holds a single quote and no double quote. The quote in use and the backslash are escaped, line ends and
tabs have short escapes, and a character without a visible form is written by its code point in two, four
or eight hexadecimal digits.
-/

namespace JournalHerald.Text

/-- The character has a visible form or is the plain space. -/
def isPrintable (c : CodePoint) : Bool :=
  32 ≤ c.toNat && !inRanges c invisibleRanges

/-- The lower-case hexadecimal digit of a number below sixteen. -/
def hexDigit (n : Nat) : CodePoint :=
  .ofNat (if n < 10 then 48 + n else 87 + n)

/-- The last `width` hexadecimal digits of a number. -/
def hexDigits : Nat → Nat → Text
  | 0, _ => []
  | width + 1, n => hexDigits width (n / 16) ++ [hexDigit (n % 16)]

/-- The escape of a character by its code point, in the shortest of the three widths. -/
def codePointEscape (c : CodePoint) : Text :=
  let n := c.toNat
  if n < 0x100 then '\\' :: 'x' :: hexDigits 2 n
  else if n < 0x10000 then '\\' :: 'u' :: hexDigits 4 n
  else '\\' :: 'U' :: hexDigits 8 n

/-- One character of a quoted text. -/
def quotedChar (quote c : CodePoint) : Text :=
  if c = quote ∨ c = '\\' then ['\\', c]
  else if c = '\n' then ['\\', 'n']
  else if c = '\r' then ['\\', 'r']
  else if c = '\t' then ['\\', 't']
  else if isPrintable c then [c]
  else codePointEscape c

/-- The quote that a text is put in. -/
def quoteFor (t : Text) : CodePoint :=
  .char (if t.contains '\'' && !t.contains '"' then '"' else '\'')

/-- The text in quotes. -/
def quoted (t : Text) : Text :=
  let quote := quoteFor t
  quote :: t.flatMap (quotedChar quote) ++ [quote]

end JournalHerald.Text

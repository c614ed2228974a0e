import JournalHerald.Text

/-!
# Blank characters and trimming

White space is that of the Unicode character database; the zero-width space is not part of it. Blank
characters are white space and the four information separators U+001C to U+001F. A text without any other
character is blank.

* `trim` drops blank characters at both ends;
* `isBlankText` says that nothing would be left.
-/

namespace JournalHerald.Text

/-- White space: tabs, line ends and every space separator. -/
def isWhiteSpace (c : CodePoint) : Bool :=
  let n := c.toNat
  (9 ≤ n && n ≤ 13) || n == 32 || n == 0x85 || n == 0xA0 || n == 0x1680 ||
    (0x2000 ≤ n && n ≤ 0x200A) || n == 0x2028 || n == 0x2029 || n == 0x202F || n == 0x205F ||
    n == 0x3000

/-- White space or one of the information separators. -/
def isBlank (c : CodePoint) : Bool :=
  isWhiteSpace c || (28 ≤ c.toNat && c.toNat ≤ 31)

/-- Drop what satisfies `p` at the end. -/
def dropWhileEnd {α : Type} (p : α → Bool) (xs : List α) : List α :=
  (xs.reverse.dropWhile p).reverse

/-- Drop what satisfies `p` at both ends. -/
def trimBoth {α : Type} (p : α → Bool) (xs : List α) : List α :=
  dropWhileEnd p (xs.dropWhile p)

/-- The text without blank characters at its ends. -/
def trim (t : Text) : Text :=
  trimBoth isBlank t

/-- The text holds blank characters only. -/
def isBlankText (t : Text) : Bool :=
  t.all isBlank

end JournalHerald.Text

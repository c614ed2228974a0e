import JournalHerald.Text

/-!
# Ranges of code points

Tables of character properties are lists of inclusive ranges in ascending order; `inRanges` says whether a
code point falls into one of them.
-/

namespace JournalHerald.Text

/-- The code point lies in one of the inclusive ranges, which come in ascending order. -/
def inRanges (c : CodePoint) : List (Nat × Nat) → Bool
  | [] => false
  | (first, last) :: rest => first ≤ c.toNat && (c.toNat ≤ last || inRanges c rest)

end JournalHerald.Text

import JournalHerald.Text.Ranges
import JournalHerald.Text.LowercaseTable

/-!
# Lower case

Full lower-casing of a text by the Unicode rules. Every character is mapped on its own, with two
exceptions: the dotted capital I becomes two characters, and a capital sigma becomes a final sigma at the
end of a word. A sigma ends a word when a cased character stands before it and none after it, where
`skippedRanges` are passed over in both directions.
-/

namespace JournalHerald.Text

/-- The character has a letter case and is not passed over in context tests. -/
def isCased (c : CodePoint) : Bool :=
  inRanges c casedRanges

/-- The character is passed over when the context of a sigma is looked at. -/
def isSkipped (c : CodePoint) : Bool :=
  inRanges c skippedRanges

/-- The lower-case form of a single character outside any context. -/
def lowercaseChar (c : CodePoint) : Text :=
  if c.toNat < 128 then [c.asciiLower]
  else if c = 'İ' then ['i', '\u0307']
  else
    match lowerSteps.find? fun (first, last, step, _) =>
        first ≤ c.toNat && c.toNat ≤ last && (c.toNat - first) % step == 0 with
    | some (_, _, _, offset) => [CodePoint.ofNat (c.toNat + offset).toNat]
    | none => [c]

/-- A cased character comes next, skipped characters aside. -/
def casedNext (rest : Text) : Bool :=
  match rest.dropWhile isSkipped with
  | [] => false
  | c :: _ => isCased c

/-- Lower-case a text of which `inWord` says whether a cased character precedes it. -/
def lowercaseFrom (inWord : Bool) : Text → Text
  | [] => []
  | c :: rest =>
    let here :=
      if c = 'Σ' then [.char (if inWord && !casedNext rest then 'ς' else 'σ')] else lowercaseChar c
    here ++ lowercaseFrom (if isSkipped c then inWord else isCased c) rest

/-- The text in lower case. -/
def lowercase (t : Text) : Text :=
  lowercaseFrom false t

end JournalHerald.Text

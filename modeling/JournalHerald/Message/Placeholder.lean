import JournalHerald.Text.Lowercase

/-!
# Placeholders

A message format is a text with placeholders. A placeholder is a name of ASCII letters in braces, optionally
followed by a colon and the name of a style, also of ASCII letters. Everything else in a format, single
braces included, stands for itself.

* `pieces` cuts a format into characters and placeholders;
* `Token` is a placeholder with its place, `tokens` lists those of a format, `tokenNames` their names
  without repetitions.
-/

namespace JournalHerald.Message

/-- A name to be replaced by a value, with an optional style for it. -/
structure Placeholder where
  name : Text
  style : Option (Text)
  deriving DecidableEq, Repr

namespace Placeholder

/-- The text that a placeholder has in a format. -/
def source (p : Placeholder) : Text :=
  let style : Text := match p.style with
    | none => []
    | some s => ":" ++ s
  "\x7b" ++ p.name ++ style ++ "\x7d"

/-- The name under which the value is looked up. -/
def key (p : Placeholder) : Text :=
  Text.lowercase p.name

end Placeholder

/-- An ASCII letter. -/
def isLetter (c : CodePoint) : Bool :=
  (65 ≤ c.toNat && c.toNat ≤ 90) || (97 ≤ c.toNat && c.toNat ≤ 122)

/-- Read letters, at least one, and the closing brace behind them. -/
def word? (cs : Text) : Option (Text × Text) :=
  match cs.dropWhile isLetter with
  | .char '}' :: rest => if cs.takeWhile isLetter = [] then none else some (cs.takeWhile isLetter, rest)
  | _ => none

/-- Read the placeholder whose opening brace has just been passed. -/
def placeholder? (cs : Text) : Option (Placeholder × Text) :=
  match cs.dropWhile isLetter with
  | .char ':' :: rest =>
    if cs.takeWhile isLetter = [] then none
    else (word? rest).map fun w => (⟨cs.takeWhile isLetter, some w.1⟩, w.2)
  | _ => (word? cs).map fun w => (⟨w.1, none⟩, w.2)

theorem length_dropWhile_le (p : CodePoint → Bool) (cs : Text) :
    (cs.dropWhile p).length ≤ cs.length :=
  (List.dropWhile_suffix p).length_le

theorem length_of_word? {cs rest w : Text} (h : word? cs = some (w, rest)) :
    rest.length < cs.length := by
  have := length_dropWhile_le isLetter cs
  grind [word?]

/-- Reading a placeholder makes progress. -/
theorem length_of_placeholder? {cs rest : Text} {p : Placeholder}
    (h : placeholder? cs = some (p, rest)) : rest.length < cs.length := by
  have drop := length_dropWhile_le isLetter cs
  unfold placeholder? at h
  split at h
  · next r hr =>
    split at h
    · cases h
    · obtain ⟨w, hw, hp⟩ := Option.map_eq_some_iff.1 h
      have := length_of_word? hw
      grind
  · obtain ⟨w, hw, hp⟩ := Option.map_eq_some_iff.1 h
    have := length_of_word? hw
    grind

/-- A character that stands for itself, or a placeholder. -/
inductive Piece where
  | char (c : CodePoint)
  | slot (p : Placeholder)
  deriving DecidableEq, Repr

/-- The characters and placeholders of a format, from the left. -/
def pieces (cs : Text) : List Piece :=
  match cs with
  | [] => []
  | c :: rest =>
    if c = '{' then
      match _h : placeholder? rest with
      | some (p, rest') => .slot p :: pieces rest'
      | none => .char c :: pieces rest
    else .char c :: pieces rest
termination_by cs.length
decreasing_by
  · have := length_of_placeholder? _h
    simp only [List.length_cons]
    omega
  · simp
  · simp

/-- A placeholder and the place of its first character, counted in characters. -/
structure Token where
  placeholder : Placeholder
  start : Nat
  deriving DecidableEq, Repr

/-- How many characters a token spans. -/
def Token.length (t : Token) : Nat :=
  t.placeholder.source.length

/-- The place behind the last character of a token. -/
def Token.stop (t : Token) : Nat :=
  t.start + t.length

/-- The tokens among pieces that begin at a place. -/
def tokensFrom (start : Nat) : List Piece → List Token
  | [] => []
  | .char _ :: rest => tokensFrom (start + 1) rest
  | .slot p :: rest => ⟨p, start⟩ :: tokensFrom (start + p.source.length) rest

/-- The tokens of a format, in order. -/
def tokens (format : Text) : List Token :=
  tokensFrom 0 (pieces format)

/-- Leave out what has occurred before. -/
def distinctFrom (seen : List Text) : List Text → List Text
  | [] => []
  | s :: rest => if seen.contains s then distinctFrom seen rest else s :: distinctFrom (s :: seen) rest

/-- The keys of tokens without repetitions, in the order of their first occurrence. -/
def tokenNames (ts : List Token) : List Text :=
  distinctFrom [] (ts.map fun t => t.placeholder.key)

end JournalHerald.Message

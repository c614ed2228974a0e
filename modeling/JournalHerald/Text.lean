/-!
# Texts

A text is a sequence of code points. Most code points are characters; the others are the surrogates, the
halves of the pairs that stand for characters past U+FFFF in UTF-16. JSON texts can name a surrogate by its
number, so one may stand in a text by itself.

* `CodePoint` is a character or a surrogate, `CodePoint.toNat` its number, `CodePoint.ofNat` the way back;
* `Text` is the type of texts, in which a string of characters is a text;
* `Text.string?` is the string that a text is, if it has no surrogates;
* `Text.before` is the order of texts by their first difference, `Text.joinWith` puts texts together.
-/

namespace JournalHerald

/-- A character, or a surrogate, which is no character. -/
inductive CodePoint where
  | char (c : Char)
  /-- The surrogate with the number `0xD800 + index`. -/
  | surrogate (index : Fin 0x800)
  deriving DecidableEq, Repr, Inhabited

namespace CodePoint

instance : Coe Char CodePoint := ⟨char⟩

/-- The number of a code point. -/
def toNat : CodePoint → Nat
  | char c => c.toNat
  | surrogate index => 0xD800 + index

/-- The code point with a number. Code points end at 0x10FFFF, and greater numbers pass as zero. -/
def ofNat (n : Nat) : CodePoint :=
  if h : 0xD800 ≤ n ∧ n < 0xE000 then surrogate ⟨n - 0xD800, by omega⟩ else char (Char.ofNat n)

/-- The code point is a surrogate. -/
def isSurrogate : CodePoint → Bool
  | char _ => false
  | surrogate _ => true

/-- The number of bytes of a code point in UTF-8, which extends to surrogates. -/
def utf8Size : CodePoint → Nat
  | char c => c.utf8Size
  | surrogate _ => 3

/-- A capital of ASCII in lower case, and any other code point as it is. -/
def asciiLower : CodePoint → CodePoint
  | char c => char c.toLower
  | surrogate index => surrogate index

end CodePoint

/-- A sequence of code points. -/
abbrev Text := List CodePoint

namespace Text

/-- The text of a string. -/
def ofString (s : String) : Text :=
  s.toList.map CodePoint.char

instance : Coe String Text := ⟨ofString⟩

/-- The characters of a text without surrogates. -/
def chars? : Text → Option (List Char)
  | [] => some []
  | .char c :: t => (chars? t).map (c :: ·)
  | .surrogate _ :: _ => none

/-- The string that a text without surrogates is. -/
def string? (t : Text) : Option String :=
  (chars? t).map String.ofList

theorem chars?_map_char (cs : List Char) : chars? (cs.map .char) = some cs := by
  induction cs with
  | nil => rfl
  | cons c cs ih => simp [chars?, ih]

theorem eq_map_of_chars? {t : Text} {cs : List Char} (h : t.chars? = some cs) : t = cs.map .char := by
  fun_induction chars? t generalizing cs with
  | case1 => simp_all
  | case2 c t ih =>
    obtain ⟨rest, hrest, rfl⟩ := Option.map_eq_some_iff.1 h
    simp [ih hrest]
  | case3 => cases h

/-- A text is a string exactly if it has no surrogates. -/
theorem string?_eq_some_iff {t : Text} {s : String} : t.string? = some s ↔ t = ofString s := by
  rw [string?, Option.map_eq_some_iff]
  refine ⟨?_, fun h => ⟨s.toList, by rw [h]; exact chars?_map_char _, String.ofList_toList⟩⟩
  rintro ⟨cs, h, rfl⟩
  rw [ofString, String.toList_ofList]
  exact eq_map_of_chars? h

@[simp] theorem string?_ofString (s : String) : (ofString s).string? = some s :=
  string?_eq_some_iff.2 rfl

/-- Different strings are different texts. -/
theorem ofString_inj {s t : String} : ofString s = ofString t ↔ s = t := by
  refine ⟨fun h => ?_, fun h => by rw [h]⟩
  have := string?_ofString s
  rw [h, string?_ofString] at this
  exact (Option.some.inj this).symm

/-- The text as a string, with U+FFFD in place of surrogates. -/
def string (t : Text) : String :=
  String.ofList (t.map fun
    | .char c => c
    | .surrogate _ => '\uFFFD')

/-- The text comes before another one: a shorter one before what continues it, and else by the numbers of
the first code points that differ. -/
def before : Text → Text → Bool
  | [], t => !t.isEmpty
  | _ :: _, [] => false
  | c :: s, d :: t => if c = d then before s t else c.toNat < d.toNat

/-- Texts one after the other with a separator between them. -/
def joinWith (separator : Text) : List Text → Text
  | [] => []
  | [t] => t
  | t :: rest => t ++ separator ++ joinWith separator rest

end Text

end JournalHerald

import JournalHerald.Message.Placeholder
import Mathlib.Data.List.TakeWhile

/-!
# The segments of a format

A format as a list of literal texts and placeholders. The scanner that finds the placeholders
reads exactly those of the grammar (`placeholder?_eq_some_iff`), so it does not look past the
brace that closes one.

* `segments` joins the characters between placeholders into literal texts;
* `flatMap_source_segments`: nothing of the format is lost;
* `spaced_segments`: literal texts are not empty and do not stand side by side;
* `tokens_of_literal_mem`: no placeholder can be read in a literal text;
* `tokens_eq_slotsFrom`: the tokens of a format are its placeholders at the places they have among
  the segments.
-/

namespace JournalHerald.Message

/-! ### The grammar of placeholders -/

/-- A run of ASCII letters that is not empty. -/
def IsWord (t : Text) : Prop := t ≠ [] ∧ ∀ c ∈ t, isLetter c = true

instance (t : Text) : Decidable (IsWord t) :=
  inferInstanceAs (Decidable (_ ∧ _))

namespace Placeholder

/-- The name is a word, and so is the style if there is one. -/
structure WellFormed (p : Placeholder) : Prop where
  name : IsWord p.name
  style : ∀ s, p.style = some s → IsWord s

theorem wellFormed_iff {p : Placeholder} :
    p.WellFormed ↔ IsWord p.name ∧ ∀ s ∈ p.style, IsWord s :=
  ⟨fun h => ⟨h.name, h.style⟩, fun h => ⟨h.1, h.2⟩⟩

instance (p : Placeholder) : Decidable p.WellFormed :=
  decidable_of_iff _ wellFormed_iff.symm

theorem WellFormed.ofName {name : Text} (h : IsWord name) : WellFormed ⟨name, none⟩ :=
  ⟨h, by rintro _ ⟨⟩⟩

/-- What follows the opening brace of a placeholder. -/
def body (p : Placeholder) : Text :=
  match p.style with
  | none => p.name ++ [.char '}']
  | some s => p.name ++ .char ':' :: (s ++ [.char '}'])

theorem source_eq_cons (p : Placeholder) : p.source = .char '{' :: p.body := by
  obtain ⟨name, style⟩ := p
  cases style with
  | none =>
    show ([.char '{'] ++ name ++ []) ++ [.char '}'] = _
    simp [body]
  | some s =>
    show ([.char '{'] ++ name ++ ([.char ':'] ++ s)) ++ [.char '}'] = _
    simp [body]

end Placeholder

theorem takeWhile_letters {w rest : Text} {c : CodePoint} (hw : ∀ d ∈ w, isLetter d = true)
    (hc : isLetter c = false) : (w ++ c :: rest).takeWhile isLetter = w := by
  rw [List.takeWhile_append_of_pos hw, List.takeWhile_cons_of_neg (by simp [hc]), List.append_nil]

theorem dropWhile_letters {w rest : Text} {c : CodePoint} (hw : ∀ d ∈ w, isLetter d = true)
    (hc : isLetter c = false) : (w ++ c :: rest).dropWhile isLetter = c :: rest := by
  rw [List.dropWhile_append_of_pos hw, List.dropWhile_cons_of_neg (by simp [hc])]

theorem isLetter_colon : isLetter (.char ':') = false := by decide

theorem isLetter_brace : isLetter (.char '}') = false := by decide

/-- A text is the letters at its head and what follows them. -/
theorem eq_letters_append {cs rest : Text} (h : cs.dropWhile isLetter = rest) :
    cs = cs.takeWhile isLetter ++ rest := by
  rw [← h, List.takeWhile_append_dropWhile]

theorem isWord_takeWhile {cs : Text} (h : cs.takeWhile isLetter ≠ []) :
    IsWord (cs.takeWhile isLetter) :=
  ⟨h, fun _ hc => List.mem_takeWhile_imp hc⟩

theorem word?_eq_some_iff {cs w rest : Text} :
    word? cs = some (w, rest) ↔ IsWord w ∧ cs = w ++ .char '}' :: rest := by
  constructor
  · intro h
    unfold word? at h
    split at h
    · next r hr =>
      split at h
      · cases h
      · next hne =>
        cases h
        exact ⟨isWord_takeWhile hne, eq_letters_append hr⟩
    · cases h
  · rintro ⟨⟨hne, hw⟩, rfl⟩
    unfold word?
    rw [dropWhile_letters hw isLetter_brace, takeWhile_letters hw isLetter_brace]
    simp [hne]

/-- **The scanner reads exactly the placeholders of the grammar.** -/
theorem placeholder?_eq_some_iff {cs rest : Text} {p : Placeholder} :
    placeholder? cs = some (p, rest) ↔ p.WellFormed ∧ cs = p.body ++ rest := by
  constructor
  · intro h
    unfold placeholder? at h
    split at h
    · next r hr =>
      split at h
      · cases h
      · next hne =>
        obtain ⟨⟨s, r'⟩, hread, he⟩ := Option.map_eq_some_iff.1 h
        obtain ⟨hs, rfl⟩ := word?_eq_some_iff.1 hread
        cases he
        refine ⟨⟨isWord_takeWhile hne, by rintro _ ⟨⟩; exact hs⟩, ?_⟩
        simpa [Placeholder.body] using eq_letters_append hr
    · obtain ⟨⟨w, r'⟩, hread, he⟩ := Option.map_eq_some_iff.1 h
      obtain ⟨hw, rfl⟩ := word?_eq_some_iff.1 hread
      cases he
      exact ⟨⟨hw, by rintro _ ⟨⟩⟩, by simp [Placeholder.body]⟩
  · rintro ⟨hp, rfl⟩
    obtain ⟨name, style⟩ := p
    obtain ⟨⟨hne, hname⟩, hstyle⟩ := hp
    unfold placeholder?
    cases style with
    | none =>
      simp only [Placeholder.body, List.append_assoc, List.singleton_append]
      rw [dropWhile_letters hname isLetter_brace]
      simp [word?_eq_some_iff.2 ⟨⟨hne, hname⟩, rfl⟩]
    | some s =>
      simp only [Placeholder.body, List.append_assoc, List.cons_append, List.nil_append]
      rw [dropWhile_letters hname isLetter_colon, takeWhile_letters hname isLetter_colon]
      simp [hne, word?_eq_some_iff.2 ⟨hstyle s rfl, rfl⟩]

/-- What is read of a text is also read of the text with more behind it. -/
theorem placeholder?_append {cs rest : Text} {p : Placeholder} (more : Text)
    (h : placeholder? cs = some (p, rest)) :
    placeholder? (cs ++ more) = some (p, rest ++ more) := by
  obtain ⟨hp, rfl⟩ := placeholder?_eq_some_iff.1 h
  exact placeholder?_eq_some_iff.2 ⟨hp, List.append_assoc _ _ _⟩

/-! ### Pieces -/

/-- The text that a piece has in a format. -/
def Piece.source : Piece → Text
  | .char c => [c]
  | .slot p => p.source

theorem pieces_slot {rest rest' : Text} {p : Placeholder} (h : placeholder? rest = some (p, rest')) :
    pieces (.char '{' :: rest) = .slot p :: pieces rest' := by
  rw [pieces, if_pos rfl]
  split
  · next h' => rw [h] at h'; cases h'; rfl
  · next h' => rw [h] at h'; cases h'

theorem pieces_char {c : CodePoint} {rest : Text} (h : c = .char '{' → placeholder? rest = none) :
    pieces (c :: rest) = .char c :: pieces rest := by
  rw [pieces]
  split
  · next hc =>
    split
    · next h' => rw [h hc] at h'; cases h'
    · rfl
  · rfl

/-- The scanner in three cases: the end, a placeholder, and a character that stands for itself. -/
theorem pieces_cases {motive : Text → Prop} (nil : motive [])
    (slot : ∀ (p : Placeholder) rest, p.WellFormed → motive rest → motive (p.source ++ rest))
    (char : ∀ c rest, (c = .char '{' → placeholder? rest = none) → motive rest → motive (c :: rest))
    (cs : Text) : motive cs := by
  fun_induction pieces cs with
  | case1 => exact nil
  | case2 rest p rest' h ih =>
    obtain ⟨hp, rfl⟩ := placeholder?_eq_some_iff.1 h
    have := slot p rest' hp ih
    rwa [Placeholder.source_eq_cons] at this
  | case3 rest h ih => exact char _ _ (fun _ => h) ih
  | case4 c rest hc ih => exact char c rest (fun h => absurd h hc) ih

theorem pieces_source_append {p : Placeholder} (hp : p.WellFormed) (rest : Text) :
    pieces (p.source ++ rest) = .slot p :: pieces rest := by
  rw [Placeholder.source_eq_cons]
  exact pieces_slot (placeholder?_eq_some_iff.2 ⟨hp, rfl⟩)

theorem flatMap_source_pieces (cs : Text) : (pieces cs).flatMap Piece.source = cs := by
  induction cs using pieces_cases with
  | nil => simp [pieces]
  | slot p rest hp ih => rw [pieces_source_append hp, List.flatMap_cons, ih]; rfl
  | char c rest hc ih => rw [pieces_char hc, List.flatMap_cons, ih]; rfl

/-! ### Segments -/

/-- A literal text or a placeholder. -/
inductive Segment where
  | literal (t : Text)
  | slot (p : Placeholder)
  deriving DecidableEq, Repr

/-- The text that a segment has in a format. -/
def Segment.source : Segment → Text
  | .literal t => t
  | .slot p => p.source

/-- Put a character in front of segments, into the first one if that is a literal text. -/
def Segment.consChar (c : CodePoint) : List Segment → List Segment
  | .literal t :: rest => .literal (c :: t) :: rest
  | segments => .literal [c] :: segments

/-- Join characters that stand side by side. -/
def join : List Piece → List Segment
  | [] => []
  | .char c :: rest => Segment.consChar c (join rest)
  | .slot p :: rest => .slot p :: join rest

/-- The literal texts and placeholders of a format, in order. -/
def segments (format : Text) : List Segment :=
  join (pieces format)

/-- Literal texts are not empty, and a placeholder follows each of them but the last. -/
inductive Spaced : List Segment → Prop where
  | nil : Spaced []
  | literal {t : Text} : t ≠ [] → Spaced [.literal t]
  | slot {p : Placeholder} {rest : List Segment} : Spaced rest → Spaced (.slot p :: rest)
  | literalSlot {t : Text} {p : Placeholder} {rest : List Segment} :
      t ≠ [] → Spaced rest → Spaced (.literal t :: .slot p :: rest)

theorem flatMap_source_consChar (c : CodePoint) (segs : List Segment) :
    (Segment.consChar c segs).flatMap Segment.source = c :: segs.flatMap Segment.source := by
  rcases segs with _ | ⟨⟨t⟩ | ⟨p⟩, rest⟩ <;> rfl

theorem flatMap_source_join (ps : List Piece) :
    (join ps).flatMap Segment.source = ps.flatMap Piece.source := by
  induction ps with
  | nil => rfl
  | cons piece ps ih =>
    cases piece with
    | char c => rw [join, flatMap_source_consChar, ih]; rfl
    | slot p => rw [join, List.flatMap_cons, ih]; rfl

/-- **The segments of a format make up the format.** -/
theorem flatMap_source_segments (format : Text) :
    (segments format).flatMap Segment.source = format := by
  rw [segments, flatMap_source_join, flatMap_source_pieces]

theorem Spaced.consChar {segs : List Segment} (c : CodePoint) (h : Spaced segs) :
    Spaced (Segment.consChar c segs) := by
  cases h with
  | nil => exact .literal (List.cons_ne_nil _ _)
  | literal _ => exact .literal (List.cons_ne_nil _ _)
  | slot h => exact .literalSlot (List.cons_ne_nil _ _) h
  | literalSlot _ h => exact .literalSlot (List.cons_ne_nil _ _) h

theorem spaced_join (ps : List Piece) : Spaced (join ps) := by
  induction ps with
  | nil => exact .nil
  | cons piece ps ih =>
    cases piece with
    | char c => exact ih.consChar c
    | slot p => exact .slot ih

theorem spaced_segments (format : Text) : Spaced (segments format) :=
  spaced_join _

theorem segments_char {c : CodePoint} {rest : Text} (h : c = .char '{' → placeholder? rest = none) :
    segments (c :: rest) = Segment.consChar c (segments rest) := by
  rw [segments, pieces_char h]; rfl

theorem segments_source_append {p : Placeholder} (hp : p.WellFormed) (rest : Text) :
    segments (p.source ++ rest) = .slot p :: segments rest := by
  rw [segments, pieces_source_append hp]; rfl

/-! ### Literal texts -/

/-- Every character of a text stands for itself. -/
def Plain (t : Text) : Prop := pieces t = t.map .char

theorem tokensFrom_map_char (start : Nat) (t : Text) : tokensFrom start (t.map .char) = [] := by
  induction t generalizing start with
  | nil => rfl
  | cons c t ih => exact ih (start + 1)

theorem Plain.tokens_eq_nil {t : Text} (h : Plain t) : tokens t = [] := by
  rw [tokens, h, tokensFrom_map_char]

theorem Plain.cons {c : CodePoint} {t : Text} (h : Plain t)
    (hc : c = .char '{' → placeholder? t = none) : Plain (c :: t) := by
  rw [Plain, pieces_char hc, h, List.map_cons]

theorem plain_nil : Plain [] := by
  simp [Plain, pieces]

/-- What cannot be read of a text with more behind it cannot be read of the text. -/
theorem placeholder?_eq_none_of_append {cs more : Text} (h : placeholder? (cs ++ more) = none) :
    placeholder? cs = none := by
  by_contra hne
  obtain ⟨⟨p, rest⟩, hp⟩ := Option.ne_none_iff_exists'.1 hne
  rw [placeholder?_append more hp] at h
  cases h

theorem plain_of_literal_mem {format t : Text} (h : .literal t ∈ segments format) : Plain t := by
  induction format using pieces_cases generalizing t with
  | nil => simp [segments, pieces, join] at h
  | slot p rest hp ih =>
    rw [segments_source_append hp] at h
    rcases List.mem_cons.1 h with h | h
    · cases h
    · exact ih h
  | char c rest hc ih =>
    rw [segments_char hc] at h
    -- the character joins the literal text at the head of the rest, if there is one
    have hrest := flatMap_source_segments rest
    cases hseg : segments rest with
    | nil =>
      rw [hseg] at h hrest
      obtain rfl : [c] = t := by simpa [Segment.consChar, eq_comm] using h
      obtain rfl : [] = rest := hrest
      exact plain_nil.cons hc
    | cons seg more =>
      rw [hseg] at h hrest ih
      cases seg with
      | slot p =>
        rcases List.mem_cons.1 h with h | h
        · cases h
          exact plain_nil.cons fun _ => rfl
        · exact ih h
      | literal l =>
        rcases List.mem_cons.1 h with h | h
        · cases h
          refine (ih (List.mem_cons_self ..)).cons fun hbrace => ?_
          have := hc hbrace
          rw [← hrest, List.flatMap_cons] at this
          exact placeholder?_eq_none_of_append this
        · exact ih (List.mem_cons_of_mem _ h)

/-- **No placeholder can be read in a literal text of a format.** -/
theorem tokens_of_literal_mem {format t : Text} (h : .literal t ∈ segments format) :
    tokens t = [] :=
  (plain_of_literal_mem h).tokens_eq_nil

/-! ### Tokens -/

/-- The placeholders among segments that begin at a place, each with its own place. -/
def slotsFrom (start : Nat) : List Segment → List Token
  | [] => []
  | .literal t :: rest => slotsFrom (start + t.length) rest
  | .slot p :: rest => ⟨p, start⟩ :: slotsFrom (start + p.source.length) rest

theorem slotsFrom_consChar (start : Nat) (c : CodePoint) (segs : List Segment) :
    slotsFrom start (Segment.consChar c segs) = slotsFrom (start + 1) segs := by
  rcases segs with _ | ⟨⟨t⟩ | ⟨p⟩, rest⟩
  · rfl
  · simp only [Segment.consChar, slotsFrom, List.length_cons]
    rw [show start + (t.length + 1) = start + 1 + t.length by omega]
  · rfl

theorem tokensFrom_eq_slotsFrom (start : Nat) (ps : List Piece) :
    tokensFrom start ps = slotsFrom start (join ps) := by
  induction ps generalizing start with
  | nil => rfl
  | cons piece ps ih =>
    cases piece with
    | char c => rw [join, slotsFrom_consChar, tokensFrom, ih]
    | slot p => rw [join, slotsFrom, tokensFrom, ih]

theorem tokens_eq_slotsFrom (format : Text) : tokens format = slotsFrom 0 (segments format) :=
  tokensFrom_eq_slotsFrom 0 _

/-- A placeholder by itself is read as the only token. -/
theorem tokens_source {p : Placeholder} (hp : p.WellFormed) : tokens p.source = [⟨p, 0⟩] := by
  rw [tokens, ← List.append_nil p.source, pieces_source_append hp, pieces]
  rfl

end JournalHerald.Message

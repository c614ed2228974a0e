import JournalHerald.Proofs.Message.Calls
import JournalHerald.Proofs.Text.Order

/-!
# The letter case of placeholders

The letter case inside the braces of a placeholder means nothing. Two formats that differ in it alone
(`Recased`) make the same message and put the same questions to the sources
(`compose_congr_of_recased`).

To lower the capitals of a format touches no brace and no colon, so the scanner finds the same tokens
in the same places, each of them lowered (`tokens_lowered`). All that a token is used for, the key
under which its value is looked up and the style that it names, can be read from its lowered form
(`composeFrom_lowered`), and the literal texts lie outside the tokens (`composeFrom_congr_outside`).
-/

namespace JournalHerald

namespace Message

/-! ### Letters -/

theorem isLetter_asciiLower (c : CodePoint) : isLetter c.asciiLower = isLetter c := by
  rw [Bool.eq_iff_iff]
  simp only [isLetter, CodePoint.toNat_asciiLower, Bool.or_eq_true, Bool.and_eq_true,
    decide_eq_true_eq]
  split <;> omega

theorem asciiLower_of_not_isLetter {c : CodePoint} (h : isLetter c = false) : c.asciiLower = c := by
  refine CodePoint.toNat_injective ?_
  rw [CodePoint.toNat_asciiLower, if_neg]
  rintro ⟨hfirst, hlast⟩
  simp [isLetter, hfirst, hlast] at h

/-- Nothing is lowered to a brace or a colon that is not one. -/
theorem eq_of_asciiLower_eq {c d : CodePoint} (hd : isLetter d = false) (h : c.asciiLower = d) :
    c = d := by
  rw [← h, isLetter_asciiLower] at hd
  rw [← h, asciiLower_of_not_isLetter hd]

theorem isWord_map_asciiLower {w : Text} : IsWord (w.map CodePoint.asciiLower) ↔ IsWord w := by
  simp only [IsWord, ne_eq, List.map_eq_nil_iff, List.forall_mem_map, isLetter_asciiLower]

theorem lowercase_map_asciiLower {w : Text} (h : IsWord w) :
    Text.lowercase (w.map CodePoint.asciiLower) = Text.lowercase w := by
  rw [← Text.lowercase_of_isAscii h.isAscii, Text.lowercase_lowercase_of_isAscii h.isAscii]

/-! ### Lowered placeholders -/

namespace Placeholder

/-- The placeholder with the capitals of its name and its style in lower case. -/
def lowered (p : Placeholder) : Placeholder :=
  ⟨p.name.map CodePoint.asciiLower, p.style.map fun s => s.map CodePoint.asciiLower⟩

theorem body_lowered (p : Placeholder) : p.lowered.body = p.body.map CodePoint.asciiLower := by
  obtain ⟨name, style⟩ := p
  have hcolon : CodePoint.asciiLower (.char ':') = .char ':' := by decide
  have hbrace : CodePoint.asciiLower (.char '}') = .char '}' := by decide
  cases style <;> simp [lowered, body, hcolon, hbrace]

theorem source_lowered (p : Placeholder) : p.lowered.source = p.source.map CodePoint.asciiLower := by
  have hbrace : CodePoint.asciiLower (.char '{') = .char '{' := by decide
  rw [source_eq_cons, source_eq_cons, body_lowered, List.map_cons, hbrace]

theorem wellFormed_lowered {p : Placeholder} : p.lowered.WellFormed ↔ p.WellFormed := by
  obtain ⟨name, style⟩ := p
  cases style <;> simp [wellFormed_iff, lowered, isWord_map_asciiLower]

variable {p : Placeholder}

theorem key_lowered (h : p.WellFormed) : p.lowered.key = p.key :=
  lowercase_map_asciiLower h.name

/-- What is lowered to the body of a placeholder is one itself. -/
theorem exists_eq_body {q : Placeholder} (hq : q.WellFormed) {t : Text}
    (h : t.map CodePoint.asciiLower = q.body) : ∃ p : Placeholder, p.WellFormed ∧ t = p.body := by
  obtain ⟨name, style⟩ := q
  have hclose : ∀ {last : Text}, last.map CodePoint.asciiLower = [.char '}'] → last = [.char '}'] := by
    intro last hlast
    obtain ⟨c, rfl, hc⟩ := List.map_eq_singleton_iff.1 hlast
    rw [eq_of_asciiLower_eq isLetter_brace hc]
  cases style with
  | none =>
    obtain ⟨word, last, rfl, hword, hlast⟩ := List.map_eq_append_iff.1 h
    refine ⟨⟨word, none⟩, .ofName (isWord_map_asciiLower.1 (hword ▸ hq.name)), ?_⟩
    rw [hclose hlast, body]
  | some s =>
    obtain ⟨word, more, rfl, hword, hmore⟩ := List.map_eq_append_iff.1 h
    obtain ⟨c, more, rfl, hc, hmore⟩ := List.map_eq_cons_iff.1 hmore
    obtain ⟨style, last, rfl, hstyle, hlast⟩ := List.map_eq_append_iff.1 hmore
    have hs : IsWord style := isWord_map_asciiLower.1 (hstyle ▸ hq.style s rfl)
    refine ⟨⟨word, some style⟩, ⟨isWord_map_asciiLower.1 (hword ▸ hq.name), ?_⟩, ?_⟩
    · rintro _ ⟨⟩
      exact hs
    · rw [eq_of_asciiLower_eq isLetter_colon hc, hclose hlast, body]

end Placeholder

/-! ### The scanner -/

/-- A piece with its capitals in lower case. -/
def Piece.lowered : Piece → Piece
  | .char c => .char c.asciiLower
  | .slot p => .slot p.lowered

theorem placeholder?_lowered_eq_none {cs : Text} (h : placeholder? cs = none) :
    placeholder? (cs.map CodePoint.asciiLower) = none := by
  by_contra hsome
  obtain ⟨⟨q, rest⟩, hread⟩ := Option.ne_none_iff_exists'.1 hsome
  obtain ⟨hq, hcs⟩ := placeholder?_eq_some_iff.1 hread
  obtain ⟨body, after, rfl, hbody, -⟩ := List.map_eq_append_iff.1 hcs
  obtain ⟨p, hp, rfl⟩ := Placeholder.exists_eq_body hq hbody
  rw [placeholder?_eq_some_iff.2 ⟨hp, rfl⟩] at h
  cases h

theorem pieces_lowered (cs : Text) :
    pieces (cs.map CodePoint.asciiLower) = (pieces cs).map Piece.lowered := by
  induction cs using pieces_cases with
  | nil => simp [pieces]
  | slot p rest hp ih =>
    rw [List.map_append, ← Placeholder.source_lowered,
      pieces_source_append (Placeholder.wellFormed_lowered.2 hp), pieces_source_append hp, ih]
    rfl
  | char c rest hc ih =>
    have hopen : c.asciiLower = .char '{' → placeholder? (rest.map CodePoint.asciiLower) = none :=
      fun h => placeholder?_lowered_eq_none (hc (eq_of_asciiLower_eq (by decide) h))
    rw [List.map_cons, pieces_char hopen, pieces_char hc, ih]
    rfl

namespace Token

/-- A token with the capitals of its placeholder in lower case. -/
def lowered (t : Token) : Token :=
  ⟨t.placeholder.lowered, t.start⟩

theorem stop_lowered (t : Token) : t.lowered.stop = t.stop := by
  rw [stop, stop, length, length, lowered, Placeholder.source_lowered, List.length_map]

end Token

theorem tokensFrom_lowered (start : Nat) (ps : List Piece) :
    tokensFrom start (ps.map Piece.lowered) = (tokensFrom start ps).map Token.lowered := by
  induction ps generalizing start with
  | nil => rfl
  | cons piece ps ih =>
    cases piece with
    | char c => exact ih (start + 1)
    | slot p =>
      rw [List.map_cons, Piece.lowered, tokensFrom, tokensFrom, ih, Placeholder.source_lowered,
        List.length_map]
      rfl

/-- **To lower a format is to lower its tokens,** which stay where they are. -/
theorem tokens_lowered (format : Text) :
    tokens (format.map CodePoint.asciiLower) = (tokens format).map Token.lowered := by
  rw [tokens, pieces_lowered, tokensFrom_lowered, tokens]

theorem tokenNames_lowered {ts : List Token} (hts : ∀ t ∈ ts, t.placeholder.WellFormed) :
    tokenNames (ts.map Token.lowered) = tokenNames ts := by
  have hkeys : (ts.map Token.lowered).map (fun t => t.placeholder.key) =
      ts.map fun t => t.placeholder.key := by
    rw [List.map_map]
    exact List.map_congr_left fun t ht => Placeholder.key_lowered (hts t ht)
  rw [tokenNames, tokenNames, hkeys]

/-! ### The pass -/

theorem styleOf_lowered (request : Request) {p : Placeholder} (h : p.WellFormed) :
    styleOf request p.lowered = styleOf request p := by
  obtain ⟨name, style⟩ := p
  cases style with
  | none => rfl
  | some s =>
    have hparse : Style.parse? (s.map CodePoint.asciiLower) = Style.parse? s := by
      rw [Style.parse?, Style.parse?, lowercase_map_asciiLower (h.style s rfl)]
    show (Style.parse? (s.map CodePoint.asciiLower)).getD request.tokenStyle = _
    rw [hparse]
    rfl

theorem partOf_lowered (request : Request) {p : Placeholder} (h : p.WellFormed) (text : Option Text) :
    partOf request p.lowered text = partOf request p text := by
  cases text with
  | none => rw [partOf, partOf, Placeholder.key_lowered h]
  | some text => rw [partOf, partOf, styleOf_lowered request h]

section

variable {σ : Type} (sources : Sources σ) (names : List Text) (request : Request) (world : World)

/-- Lowered tokens make the same message. -/
theorem composeFrom_lowered (format : Text) {ts : List Token}
    (hts : ∀ t ∈ ts, t.placeholder.WellFormed) (memo : Memo) (index : Nat) :
    composeFrom (resolve sources names request world) request format memo index
        (ts.map Token.lowered) =
      composeFrom (resolve sources names request world) request format memo index ts := by
  induction ts generalizing memo index with
  | nil => rfl
  | cons t ts ih =>
    obtain ⟨ht, hts⟩ := List.forall_mem_cons.1 hts
    have hkey : t.lowered.placeholder.key = t.placeholder.key := Placeholder.key_lowered ht
    have hpart : partOf request t.lowered.placeholder = partOf request t.placeholder :=
      funext (partOf_lowered request ht)
    have hstart : t.lowered.start = t.start := rfl
    simp only [List.map_cons, composeFrom, hkey, hpart, hstart, Token.stop_lowered, ih hts]

theorem literal_congr {format format' : Text} {start stop : Nat}
    (h : ∀ i, start ≤ i → i < stop → format[i]? = format'[i]?) :
    literal request format start stop = literal request format' start stop := by
  have hcut : (format.take stop).drop start = (format'.take stop).drop start := by
    refine List.ext_getElem? fun i => ?_
    rw [List.getElem?_drop, List.getElem?_drop]
    by_cases hi : start + i < stop
    · rw [List.getElem?_take_of_lt hi, List.getElem?_take_of_lt hi, h _ (by omega) hi]
    · rw [List.getElem?_take_eq_none (by omega), List.getElem?_take_eq_none (by omega)]
  rw [literal, literal, hcut]

/-- A message looks at its format outside the tokens only. -/
theorem composeFrom_congr_outside {format format' : Text} (hlength : format.length = format'.length)
    {ts : List Token} (hts : ts.Pairwise fun a b => a.stop ≤ b.start) (memo : Memo) {index : Nat}
    (hindex : ∀ t ∈ ts, index ≤ t.start)
    (h : ∀ i, index ≤ i → (∀ t ∈ ts, ¬(t.start ≤ i ∧ i < t.stop)) → format[i]? = format'[i]?) :
    composeFrom (resolve sources names request world) request format memo index ts =
      composeFrom (resolve sources names request world) request format' memo index ts := by
  induction ts generalizing memo index with
  | nil =>
    have hliteral : literal request format index format.length =
        literal request format' index format.length :=
      literal_congr request fun i hi _ => h i hi (by simp)
    rw [composeFrom, composeFrom, ← hlength, hliteral]
  | cons t ts ih =>
    obtain ⟨hbehind, hts⟩ := List.pairwise_cons.1 hts
    have hstop : t.start ≤ t.stop := Nat.le_add_right ..
    have ht := hindex t List.mem_cons_self
    -- the gap in front of the first token has no place in common with any token
    have hliteral : literal request format index t.start = literal request format' index t.start := by
      refine literal_congr request fun i hi hgap => h i hi fun u hu => ?_
      rcases List.mem_cons.1 hu with rfl | hu
      · omega
      · have := hbehind u hu
        omega
    have hrest : ∀ memo,
        composeFrom (resolve sources names request world) request format memo t.stop ts =
        composeFrom (resolve sources names request world) request format' memo t.stop ts := by
      intro memo
      refine ih hts memo hbehind fun i hi hout => h i (by omega) fun u hu => ?_
      rcases List.mem_cons.1 hu with rfl | hu
      · omega
      · exact hout u hu
    simp only [composeFrom, hliteral, hrest]

end

/-! ### Main statement -/

/-- Two formats differ at most in the letter case of ASCII letters inside the braces of tokens. -/
structure Recased (format format' : Text) : Prop where
  letters : format.map CodePoint.asciiLower = format'.map CodePoint.asciiLower
  /-- A place in no token of the one holds the same in the other. -/
  outside : ∀ i, (∀ t ∈ tokens format, ¬(t.start ≤ i ∧ i < t.stop)) → format[i]? = format'[i]?

/-- **The letter case of placeholders means nothing.** Formats that differ in it alone give the same
pieces in the same styles, or the same failure, whatever the sources do, and the sources are asked the
same questions in the same order: they end in the same state, and a tally of the questions is the same,
with the criteria of the count. -/
theorem compose_congr_of_recased {σ : Type} (sources : Sources σ) (request : Request)
    {format format' : Text} (h : Recased format format') :
    compose sources request format = compose sources request format' ∧
    compose sources.tallied request format = compose sources.tallied request format' := by
  have hwell : ∀ format, ∀ t ∈ tokens format, t.placeholder.WellFormed :=
    fun _ t ht => (mem_tokens_iff.1 ht).1
  have htokens : (tokens format).map Token.lowered = (tokens format').map Token.lowered := by
    rw [← tokens_lowered, ← tokens_lowered, h.letters]
  have hnames : tokenNames (tokens format) = tokenNames (tokens format') := by
    rw [← tokenNames_lowered (hwell format), htokens, tokenNames_lowered (hwell format')]
  have hlength : format.length = format'.length := by
    rw [← List.length_map CodePoint.asciiLower, h.letters, List.length_map]
  -- first the text is exchanged while the tokens stay, then the tokens through their lowered forms
  have hpass : ∀ {τ : Type} (sources : Sources τ) (names : List Text) (world : World),
      composeFrom (resolve sources names request world) request format {} 0 (tokens format) =
        composeFrom (resolve sources names request world) request format' {} 0 (tokens format') := by
    intro τ sources names world
    calc composeFrom (resolve sources names request world) request format {} 0 (tokens format)
        = composeFrom (resolve sources names request world) request format' {} 0 (tokens format) :=
          composeFrom_congr_outside sources names request world hlength
            (pairwise_tokensFrom 0 _) {} (fun _ _ => Nat.zero_le _) fun i _ => h.outside i
      _ = composeFrom (resolve sources names request world) request format' {} 0
            ((tokens format').map Token.lowered) := by
          rw [← htokens, composeFrom_lowered sources names request world format' (hwell format)]
      _ = composeFrom (resolve sources names request world) request format' {} 0 (tokens format') :=
          composeFrom_lowered sources names request world format' (hwell format') {} 0
  have hcompose : ∀ {τ : Type} (sources : Sources τ),
      compose sources request format = compose sources request format' := by
    intro τ sources
    simp only [compose, hnames, hpass]
  exact ⟨hcompose sources, hcompose sources.tallied⟩

/-- A docking that shows its station in a style, with the ordinal of the count and a field that the entry
lacks, each of them written in two ways. -/
theorem compose_congr_of_recased_docking :
    let format : Text := "{StationName:NAME}: {OrdinalCount}{Target}"
    let format' : Text := "{stationname:naMe}: {ordinalCOUNT}{tARGET}"
    let docked : Event := .ofEntry [("event", .text "Docked"), ("StationName", .text "Lave")] false none
    let request : Request := { event := some docked, filterOnCommander := true }
    let sources := Sources.canned (.ok { commander := some "Ada" }) (.ok (.int 3)) {} []
    Recased format format' ∧ compose sources request format = compose sources request format' ∧
      compose sources.tallied request format = compose sources.tallied request format' := by
  intro format format' docked request sources
  have hstation : Placeholder.WellFormed ⟨"StationName", some "NAME"⟩ := by decide
  have hcount : Placeholder.WellFormed ⟨"OrdinalCount", none⟩ := by decide
  have htarget : Placeholder.WellFormed ⟨"Target", none⟩ := by decide
  have hformat : format = Placeholder.source ⟨"StationName", some "NAME"⟩ ++ .char ':' :: .char ' ' ::
      (Placeholder.source ⟨"OrdinalCount", none⟩ ++ (Placeholder.source ⟨"Target", none⟩ ++ [])) := by
    decide +kernel
  have htokens : tokens format = [⟨⟨"StationName", some "NAME"⟩, 0⟩, ⟨⟨"OrdinalCount", none⟩, 20⟩,
      ⟨⟨"Target", none⟩, 34⟩] := by
    rw [tokens, hformat, pieces_source_append hstation, pieces_char (by decide),
      pieces_char (by decide), pieces_source_append hcount, pieces_source_append htarget, pieces]
    decide
  have hrecased : Recased format format' := by
    refine ⟨by decide +kernel, fun i hout => ?_⟩
    rw [htokens] at hout
    by_cases hi : i < 42
    · revert hout
      revert i
      decide +kernel
    · have hlength : format.length = 42 := by decide
      have hlength' : format'.length = 42 := by decide
      rw [List.getElem?_eq_none (by omega), List.getElem?_eq_none (by omega)]
  exact ⟨hrecased, compose_congr_of_recased sources request hrecased⟩

end Message

end JournalHerald

import JournalHerald.Json.Reader
import JournalHerald.Json.Writer
import JournalHerald.Proofs.Text.Order
import Mathlib.Data.List.Chain
import Mathlib.Tactic.IntervalCases

/-!
# Reading back written strings

A string is written in ASCII: a code point stands for itself, for an escape of one letter, or for one or two
escapes with the number of a UTF-16 code unit. Two escapes for the halves of a pair are read as one
character. So a text with two surrogates in the order of a pair reads as another one, and every other text
reads as itself.

* `Text.Unpaired` are the texts without such surrogates;
* `Escaped` tells the ways in which a code point is written;
* `readEscape_append` reads one code point back, `readString_writeString` a whole string.
-/

namespace JournalHerald

namespace CodePoint

/-- Only a surrogate has a number among those of the surrogates. -/
theorem exists_eq_surrogate {c : CodePoint} (h : 0xD800 ≤ c.toNat ∧ c.toNat < 0xE000) :
    ∃ index, c = surrogate index := by
  cases c with
  | char c =>
    rw [toNat] at h
    have hvalid := toNat_valid c
    omega
  | surrogate index => exact ⟨index, rfl⟩

theorem toNat_lt (c : CodePoint) : c.toNat < 0x110000 := by
  cases c with
  | char c =>
    have hvalid := toNat_valid c
    rw [toNat]
    omega
  | surrogate index =>
    rw [toNat]
    omega

/-- The code point belongs to ASCII and is no control character. -/
def IsGraphic (c : CodePoint) : Prop :=
  32 ≤ c.toNat ∧ c.toNat < 127

instance (c : CodePoint) : Decidable c.IsGraphic :=
  inferInstanceAs (Decidable (_ ∧ _))

end CodePoint

theorem Json.isHighSurrogate_iff {n : Nat} : Json.isHighSurrogate n = true ↔ 0xD800 ≤ n ∧ n < 0xDC00 := by
  simp only [Json.isHighSurrogate, Bool.and_eq_true, decide_eq_true_eq]

theorem Json.isLowSurrogate_iff {n : Nat} : Json.isLowSurrogate n = true ↔ 0xDC00 ≤ n ∧ n < 0xE000 := by
  simp only [Json.isLowSurrogate, Bool.and_eq_true, decide_eq_true_eq]

namespace Text

open Json

/-- The text with every two surrogates that follow one another as the halves of a pair joined to the character
that they stand for. -/
def joined : Text → Text
  | [] => []
  | [c] => [c]
  | c :: d :: t =>
    if isHighSurrogate c.toNat = true ∧ isLowSurrogate d.toNat = true then
      .ofNat (joinHalves c.toNat d.toNat) :: joined t
    else c :: joined (d :: t)

/-- No two surrogates in the text follow one another as the halves of a pair. -/
def Unpaired (t : Text) : Prop :=
  t.IsChain fun c d => ¬(isHighSurrogate c.toNat = true ∧ isLowSurrogate d.toNat = true)

instance (t : Text) : Decidable t.Unpaired :=
  inferInstanceAs (Decidable (t.IsChain _))

variable {t : Text}

theorem Unpaired.joined_eq (h : t.Unpaired) : t.joined = t := by
  fun_induction joined t with
  | case1 => rfl
  | case2 => rfl
  | case3 c d t hpair => exact absurd hpair ((List.isChain_cons.1 h).1 d rfl)
  | case4 c d t _ ih => rw [ih (List.isChain_cons.1 h).2]

/-- A text of characters alone. -/
theorem Unpaired.of_not_isSurrogate (h : ∀ c ∈ t, c.isSurrogate = false) : t.Unpaired := by
  induction t with
  | nil => exact .nil
  | cons c t ih =>
    obtain ⟨hc, ht⟩ := List.forall_mem_cons.1 h
    refine List.isChain_cons.2 ⟨fun d _ hpair => ?_, ih ht⟩
    have hhigh := isHighSurrogate_iff.1 hpair.1
    obtain ⟨index, rfl⟩ := CodePoint.exists_eq_surrogate ⟨hhigh.1, by omega⟩
    cases hc

/-- Every string is a text of characters. -/
theorem Unpaired.ofString (s : String) : (Text.ofString s).Unpaired := by
  apply Unpaired.of_not_isSurrogate
  intro c hc
  obtain ⟨d, -, rfl⟩ := List.mem_map.1 hc
  rfl

@[simp] theorem joined_ofString (s : String) : (ofString s).joined = ofString s :=
  (Unpaired.ofString s).joined_eq

end Text

namespace Json

variable {c : CodePoint} {n d : Nat} {t rest opening : Text}

/-! ### Hexadecimal digits -/

theorem hexValue?_hexDigit (h : d < 16) : hexValue? (Text.hexDigit d) = some d := by
  interval_cases d <;> rfl

theorem isGraphic_hexDigit (h : d < 16) : (Text.hexDigit d).IsGraphic := by
  interval_cases d <;> decide

theorem hexDigits_four (n : Nat) : Text.hexDigits 4 n =
    [Text.hexDigit (n / 16 / 16 / 16 % 16), Text.hexDigit (n / 16 / 16 % 16),
      Text.hexDigit (n / 16 % 16), Text.hexDigit (n % 16)] :=
  rfl

theorem hex4?_hexDigits (h : n < 0x10000) (hrest : rest ≠ []) :
    hex4? (Text.hexDigits 4 n ++ rest) = some (n, rest) := by
  obtain ⟨e, more, rfl⟩ := List.exists_cons_of_ne_nil hrest
  have hlt : ∀ k : Nat, k % 16 < 16 := fun k => Nat.mod_lt _ (by decide)
  have hvalue : ((n / 16 / 16 / 16 % 16 * 16 + n / 16 / 16 % 16) * 16 + n / 16 % 16) * 16 + n % 16 = n := by
    omega
  simp only [hexDigits_four, List.cons_append, List.nil_append, hex4?, hexValue?_hexDigit (hlt _),
    Option.bind_eq_bind, Option.bind_some, hvalue]
  rfl

/-! ### The ways to write a code point -/

/-- The number of the first half of the pair for a character past U+FFFF. -/
def highHalf (n : Nat) : Nat := 0xD800 + (n - 0x10000) / 0x400

/-- The number of the second half of the pair for a character past U+FFFF. -/
def lowHalf (n : Nat) : Nat := 0xDC00 + (n - 0x10000) % 0x400

/-- How a code point can be written. -/
inductive Escaped (c : CodePoint) : Text → Prop where
  | plain : isPlain c = true → c.IsGraphic → Escaped c [c]
  | letter {l : CodePoint} {d : Char} : simpleEscape? l = some d → l.IsGraphic → c = .char d →
      Escaped c ['\\', l]
  | unit : c.toNat < 0x10000 → Escaped c ('\\' :: .char 'u' :: Text.hexDigits 4 c.toNat)
  | pair : 0x10000 ≤ c.toNat → Escaped c ('\\' :: .char 'u' ::
      (Text.hexDigits 4 (highHalf c.toNat) ++ .char '\\' :: .char 'u' :: Text.hexDigits 4 (lowHalf c.toNat)))

theorem escaped_escapePoint (c : CodePoint) : Escaped c (escapePoint c) := by
  unfold escapePoint
  split
  · next h =>
    obtain rfl | rfl := h
    · exact .letter rfl (by decide) rfl
    · exact .letter rfl (by decide) rfl
  · next hquote =>
    split
    · next h => exact .letter (l := 'n') rfl (by decide) h
    split
    · next h => exact .letter (l := 'r') rfl (by decide) h
    split
    · next h => exact .letter (l := 't') rfl (by decide) h
    split
    · next h => exact .letter (l := 'b') rfl (by decide) h
    split
    · next h => exact .letter (l := 'f') rfl (by decide) h
    by_cases hgraphic : 32 ≤ c.toNat ∧ c.toNat < 127
    · rw [not_or] at hquote
      simp only [if_pos hgraphic]
      exact .plain (by simp [isPlain, hquote.1, hquote.2, hgraphic.1]) hgraphic
    · simp only [if_neg hgraphic]
      split
      · next h => exact .unit h
      · next h => exact .pair (Nat.le_of_not_lt h)

/-- A code point that does not stand for itself is written with a backslash in front. -/
theorem Escaped.eq_or_head? {e : Text} (h : Escaped c e) :
    (isPlain c = true ∧ e = [c]) ∨ e.head? = some (.char '\\') := by
  cases h with
  | plain hplain => exact .inl ⟨hplain, rfl⟩
  | letter => exact .inr rfl
  | unit => exact .inr rfl
  | pair => exact .inr rfl

theorem Escaped.length_pos {e : Text} (h : Escaped c e) : 0 < e.length := by
  cases h <;> simp

theorem isGraphic_of_mem_hexDigits (h : c ∈ Text.hexDigits 4 n) : c.IsGraphic := by
  have hlt : ∀ k : Nat, k % 16 < 16 := fun k => Nat.mod_lt _ (by decide)
  simp only [hexDigits_four, List.mem_cons, List.not_mem_nil, or_false] at h
  obtain rfl | rfl | rfl | rfl := h
  all_goals exact isGraphic_hexDigit (hlt _)

theorem Escaped.isGraphic {e : Text} (h : Escaped c e) : ∀ d ∈ e, d.IsGraphic := by
  have hbackslash : CodePoint.IsGraphic '\\' := by decide
  have hu : CodePoint.IsGraphic 'u' := by decide
  cases h with
  | plain _ hc => simpa using hc
  | letter _ hl => simpa using ⟨hbackslash, hl⟩
  | unit =>
    refine List.forall_mem_cons.2 ⟨hbackslash, List.forall_mem_cons.2 ⟨hu, ?_⟩⟩
    exact fun _ => isGraphic_of_mem_hexDigits
  | pair =>
    refine List.forall_mem_cons.2 ⟨hbackslash, List.forall_mem_cons.2 ⟨hu, ?_⟩⟩
    refine List.forall_mem_append.2 ⟨fun _ => isGraphic_of_mem_hexDigits, ?_⟩
    refine List.forall_mem_cons.2 ⟨hbackslash, List.forall_mem_cons.2 ⟨hu, ?_⟩⟩
    exact fun _ => isGraphic_of_mem_hexDigits

/-! ### Reading one code point -/

/-- The text does not go on with the escape of the second half of a pair. -/
def Lone (t : Text) : Prop :=
  ∀ more, t = .char '\\' :: .char 'u' :: more →
    ∃ m rest, hex4? more = some (m, rest) ∧ isLowSurrogate m = false

theorem lone_quote (rest : Text) : Lone (.char '"' :: rest) := by
  rintro more ⟨⟩

/-- Only a low surrogate is written as the second half of a pair. -/
theorem Escaped.lone {e : Text} (h : Escaped c e) (hlow : isLowSurrogate c.toNat = false)
    (hrest : rest ≠ []) : Lone (e ++ rest) := by
  intro more heq
  cases h with
  | plain hplain =>
    obtain ⟨rfl, -⟩ := List.cons.inj heq
    cases hplain
  | letter hl =>
    obtain ⟨-, htail⟩ := List.cons.inj heq
    obtain ⟨rfl, -⟩ := List.cons.inj htail
    cases hl
  | unit hn =>
    obtain ⟨-, htail⟩ := List.cons.inj heq
    obtain ⟨-, rfl⟩ := List.cons.inj htail
    exact ⟨_, _, hex4?_hexDigits hn hrest, hlow⟩
  | pair hn =>
    rw [List.cons_append, List.cons_append, List.append_assoc] at heq
    obtain ⟨-, htail⟩ := List.cons.inj heq
    obtain ⟨-, rfl⟩ := List.cons.inj htail
    have hc := c.toNat_lt
    have hhigh : highHalf c.toNat < 0xDC00 := by
      unfold highHalf
      omega
    refine ⟨_, _, hex4?_hexDigits (Nat.lt_trans hhigh (by decide)) (by simp), ?_⟩
    rw [Bool.eq_false_iff, Ne, isLowSurrogate_iff]
    omega

theorem readCodePoint_unit (hn : n < 0x10000) (hrest : rest ≠ [])
    (hlone : isHighSurrogate n = true → Lone rest) :
    readCodePoint (.char 'u' :: (Text.hexDigits 4 n ++ rest)) = .ok (.ofNat n, rest) := by
  unfold readCodePoint
  simp only [List.drop_succ_cons, List.drop_zero, hex4?_hexDigits hn hrest]
  split
  · next hhigh =>
    split
    · next a b c d e more =>
      obtain ⟨m, rest', hm, hlow⟩ := hlone hhigh _ rfl
      simp [hm, hlow]
    · rfl
  · rfl

/-- Two escapes for the halves of a pair are read as one character. -/
theorem readCodePoint_halves {high low : Nat} (hhigh : isHighSurrogate high = true)
    (hlow : isLowSurrogate low = true) (hrest : rest ≠ []) :
    readCodePoint (.char 'u' :: (Text.hexDigits 4 high ++
      .char '\\' :: .char 'u' :: (Text.hexDigits 4 low ++ rest))) =
      .ok (.ofNat (joinHalves high low), rest) := by
  have hhighLt : high < 0x10000 := by
    have := isHighSurrogate_iff.1 hhigh
    omega
  have hlowLt : low < 0x10000 := by
    have := isLowSurrogate_iff.1 hlow
    omega
  have hfirst : hex4? (Text.hexDigits 4 high ++ .char '\\' :: .char 'u' :: (Text.hexDigits 4 low ++ rest)) =
      some (high, .char '\\' :: .char 'u' :: (Text.hexDigits 4 low ++ rest)) :=
    hex4?_hexDigits hhighLt (by simp)
  obtain ⟨e, more, rfl⟩ := List.exists_cons_of_ne_nil hrest
  have hsecond := hex4?_hexDigits hlowLt hrest
  unfold readCodePoint
  simp only [List.drop_succ_cons, List.drop_zero, hfirst, hhigh, if_true]
  simp only [hexDigits_four, List.cons_append, List.nil_append] at hsecond
  simp only [hexDigits_four, List.cons_append, List.nil_append, hsecond, hlow, if_true]

theorem readCodePoint_pair (hle : 0x10000 ≤ n) (hlt : n < 0x110000) (hrest : rest ≠ []) :
    readCodePoint (.char 'u' :: (Text.hexDigits 4 (highHalf n) ++
      .char '\\' :: .char 'u' :: (Text.hexDigits 4 (lowHalf n) ++ rest))) = .ok (.ofNat n, rest) := by
  have hhigh : isHighSurrogate (highHalf n) = true := by
    rw [isHighSurrogate_iff, highHalf]
    omega
  have hlow : isLowSurrogate (lowHalf n) = true := by
    rw [isLowSurrogate_iff, lowHalf]
    omega
  have hjoin : joinHalves (highHalf n) (lowHalf n) = n := by
    unfold joinHalves highHalf lowHalf
    omega
  rw [readCodePoint_halves hhigh hlow hrest, hjoin]

theorem readEscape_letter {l : CodePoint} {d : Char} (h : simpleEscape? l = some d) (rest : Text) :
    readEscape opening (.char '\\' :: l :: rest) = .ok (.char d, rest) := by
  unfold readEscape
  split
  · next hnil => cases hnil
  · next hu =>
    obtain ⟨rfl, -⟩ := List.cons.inj hu
    cases h
  · next hcons =>
    obtain ⟨rfl, rfl⟩ := List.cons.inj hcons
    simp only [h]

theorem readEscape_u (rest : Text) :
    readEscape opening (.char '\\' :: .char 'u' :: rest) = readCodePoint (.char 'u' :: rest) :=
  rfl

/-- An escape is read as the code point that it was written for. -/
theorem readEscape_append {e : Text} (h : Escaped c e) (he : e.head? = some (.char '\\'))
    (hrest : rest ≠ []) (hlone : isHighSurrogate c.toNat = true → Lone rest) :
    readEscape opening (e ++ rest) = .ok (c, rest) := by
  cases h with
  | plain hplain =>
    cases he
    cases hplain
  | letter hl _ hc =>
    rw [hc]
    exact readEscape_letter hl rest
  | unit hn =>
    rw [List.cons_append, List.cons_append, readEscape_u, readCodePoint_unit hn hrest hlone,
      CodePoint.ofNat_toNat]
  | pair hn =>
    simp only [List.cons_append, List.append_assoc]
    rw [readEscape_u, readCodePoint_pair hn c.toNat_lt hrest, CodePoint.ofNat_toNat]

/-! ### Reading a string -/

theorem readChars_plain (hc : isPlain c = true) (n : Nat) (t : Text) :
    readChars opening n (c :: t) = (readChars opening n t).map fun p => (c :: p.1, p.2) := by
  cases n with
  | zero => rfl
  | succ n =>
    unfold readChars
    rw [List.takeWhile_cons_of_pos hc, List.dropWhile_cons_of_pos hc]
    split
    · rfl
    · rfl
    · next escaped _ =>
      cases readEscape opening (.char '\\' :: escaped) with
      | error => rfl
      | ok read =>
        cases hmore : readChars opening n read.2 with
        | error => simp [hmore, bind, Except.bind, Except.map]
        | ok more => simp [hmore, bind, Except.bind, Except.map, pure, Except.pure]
    · rfl

theorem readChars_escape {e : Text} (he : e.head? = some (.char '\\'))
    (h : readEscape opening e = .ok (c, t)) (n : Nat) :
    readChars opening (n + 1) e = (readChars opening n t).map fun p => (c :: p.1, p.2) := by
  obtain ⟨e, rfl⟩ : ∃ more, e = .char '\\' :: more := List.head?_eq_some_iff.1 he
  have hstop : ¬isPlain (.char '\\') = true := by decide
  rw [readChars, List.takeWhile_cons_of_neg hstop, List.dropWhile_cons_of_neg hstop]
  simp only [h]
  cases hmore : readChars opening n t with
  | error => simp [hmore, bind, Except.bind, Except.map]
  | ok more => simp [hmore, bind, Except.bind, Except.map, pure, Except.pure]

theorem readChars_halves {high low : Nat} (hhigh : isHighSurrogate high = true)
    (hlow : isLowSurrogate low = true) (hrest : rest ≠ []) (n : Nat) :
    readChars opening (n + 1) (.char '\\' :: .char 'u' :: (Text.hexDigits 4 high ++
      .char '\\' :: .char 'u' :: (Text.hexDigits 4 low ++ rest))) =
      (readChars opening n rest).map fun p => (.ofNat (joinHalves high low) :: p.1, p.2) := by
  apply readChars_escape rfl
  rw [readEscape_u]
  exact readCodePoint_halves hhigh hlow hrest

theorem readChars_quote (n : Nat) (rest : Text) :
    readChars opening (n + 1) (.char '"' :: rest) = .ok ([], rest) := by
  have hstop : ¬isPlain (.char '"') = true := by decide
  rw [readChars, List.takeWhile_cons_of_neg hstop, List.dropWhile_cons_of_neg hstop]
  rfl

theorem lone_flatMap_escapePoint (h : ∀ d ∈ t.head?, isLowSurrogate d.toNat = false) :
    Lone (t.flatMap escapePoint ++ .char '"' :: rest) := by
  cases t with
  | nil => exact lone_quote rest
  | cons d t =>
    rw [List.flatMap_cons, List.append_assoc]
    exact (escaped_escapePoint d).lone (h d rfl) (by simp)

/-- A code point is read by itself, unless it is joined to the one that follows. -/
theorem readChars_escapePoint {rest' : Text} (hrest : rest ≠ [])
    (hlone : isHighSurrogate c.toNat = true → Lone rest)
    (hmore : ∀ k, n ≤ k → readChars opening k rest = .ok (t, rest')) :
    readChars opening (n + 1) (escapePoint c ++ rest) = .ok (c :: t, rest') := by
  have hescaped := escaped_escapePoint c
  rcases hescaped.eq_or_head? with ⟨hplain, heq⟩ | hhead
  · rw [heq, List.singleton_append, readChars_plain hplain, hmore _ (Nat.le_succ n)]
    rfl
  · have hread : readEscape opening (escapePoint c ++ rest) = .ok (c, rest) :=
      readEscape_append hescaped hhead hrest hlone
    rw [readChars_escape (by simp [hhead]) hread, hmore n (Nat.le_refl n)]
    rfl

theorem escapePoint_of_surrogate (h : 0xD800 ≤ c.toNat ∧ c.toNat < 0xE000) :
    escapePoint c = .char '\\' :: .char 'u' :: Text.hexDigits 4 c.toNat := by
  obtain ⟨index, rfl⟩ := CodePoint.exists_eq_surrogate h
  have hgraphic : ¬(32 ≤ (CodePoint.surrogate index).toNat ∧ (CodePoint.surrogate index).toNat < 127) := by omega
  have hunit : (CodePoint.surrogate index).toNat < 0x10000 := by omega
  simp [escapePoint, hgraphic, hunit, unitEscape]

/-- The code points of a text are read up to the closing quote. -/
theorem readChars_flatMap_escapePoint (hn : t.length < n) :
    readChars opening n (t.flatMap escapePoint ++ .char '"' :: rest) = .ok (t.joined, rest) := by
  fun_induction Text.joined t generalizing n with
  | case1 =>
    obtain ⟨n, rfl⟩ := Nat.exists_eq_add_one_of_ne_zero hn.ne'
    exact readChars_quote n rest
  | case2 c =>
    obtain ⟨n, rfl⟩ := Nat.exists_eq_add_one_of_ne_zero (Nat.ne_zero_of_lt hn)
    rw [List.flatMap_singleton]
    refine readChars_escapePoint (by simp) (fun _ => lone_quote rest) fun k hk => ?_
    have hpos : 0 < k := Nat.lt_of_lt_of_le (Nat.lt_of_succ_lt_succ hn) hk
    obtain ⟨k, rfl⟩ := Nat.exists_eq_add_one_of_ne_zero hpos.ne'
    exact readChars_quote k rest
  | case3 c d t hpair ih =>
    obtain ⟨n, rfl⟩ := Nat.exists_eq_add_one_of_ne_zero (Nat.ne_zero_of_lt hn)
    rw [List.length_cons, List.length_cons] at hn
    have hc := isHighSurrogate_iff.1 hpair.1
    have hd := isLowSurrogate_iff.1 hpair.2
    have htext : (c :: d :: t).flatMap escapePoint ++ .char '"' :: rest =
        .char '\\' :: .char 'u' :: (Text.hexDigits 4 c.toNat ++
          .char '\\' :: .char 'u' :: (Text.hexDigits 4 d.toNat ++ (t.flatMap escapePoint ++ .char '"' :: rest))) := by
      simp only [List.flatMap_cons, escapePoint_of_surrogate ⟨hc.1, hc.2.trans (by decide)⟩,
        escapePoint_of_surrogate ⟨Nat.le_trans (by decide) hd.1, hd.2⟩, List.cons_append, List.append_assoc]
    rw [htext, readChars_halves hpair.1 hpair.2 (by simp), ih (by omega)]
    rfl
  | case4 c d t hpair ih =>
    obtain ⟨n, rfl⟩ := Nat.exists_eq_add_one_of_ne_zero (Nat.ne_zero_of_lt hn)
    rw [List.length_cons] at hn
    rw [List.flatMap_cons, List.append_assoc]
    refine readChars_escapePoint (by simp) (fun hhigh => ?_) fun k hk => ih (by omega)
    apply lone_flatMap_escapePoint
    intro e he
    obtain rfl := Option.some.inj he
    exact Bool.eq_false_iff.2 fun hlow => hpair ⟨hhigh, hlow⟩

theorem length_le_length_flatMap_escapePoint (t : Text) : t.length ≤ (t.flatMap escapePoint).length := by
  induction t with
  | nil => exact Nat.le_refl _
  | cons c t ih =>
    have hpos := (escaped_escapePoint c).length_pos
    rw [List.flatMap_cons, List.length_append, List.length_cons]
    omega

theorem writeString_eq (t : Text) :
    writeString t = .char '"' :: (t.flatMap escapePoint ++ [.char '"']) := by
  have hquote : Text.ofString "\"" = [.char '"'] := by decide
  rw [writeString, hquote, List.append_assoc, List.singleton_append]

/-- A string reads as the text that was written, in which the halves of pairs are joined. -/
theorem readString_writeString {bound : Nat} (hbound : t.length < bound) :
    readString bound (writeString t ++ rest) = .ok (t.joined, rest) := by
  rw [readString, writeString_eq, List.cons_append, List.append_assoc, List.singleton_append,
    List.drop_succ_cons, List.drop_zero]
  exact readChars_flatMap_escapePoint hbound

theorem length_lt_length_writeString (t : Text) : t.length < (writeString t).length := by
  have := length_le_length_flatMap_escapePoint t
  rw [writeString_eq, List.length_cons, List.length_append]
  omega

theorem isGraphic_of_mem_writeString (h : c ∈ writeString t) : c.IsGraphic := by
  rw [writeString_eq, List.mem_cons, List.mem_append, List.mem_singleton, List.mem_flatMap] at h
  rcases h with rfl | ⟨d, -, hc⟩ | rfl
  · decide
  · exact (escaped_escapePoint d).isGraphic c hc
  · decide

end Json

end JournalHerald

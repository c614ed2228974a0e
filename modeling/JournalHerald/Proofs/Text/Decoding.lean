import JournalHerald.Proofs.Text.Order
import JournalHerald.Text.Utf8

/-!
# Reading what has been written in UTF-8

What characters are written as is read as these characters, wherever the bytes are cut into blocks. A part of
the bytes at their beginning is read as the characters that are complete in it; it ends between two of them
exactly if it is what these are written as.

* `encode` is what characters are written as;
* `readBlock?_append` and `readBlocks_blocks` say that it does not matter where bytes are cut;
* `readBlock?_encode` and `exists_readBlock?_of_prefix` are the main results.
-/

namespace JournalHerald.Utf8

/-- The bytes that characters are written as. -/
def encode (cs : List Char) : List UInt8 :=
  cs.flatMap String.utf8EncodeChar

theorem encode_append (cs cs' : List Char) : encode (cs ++ cs') = encode cs ++ encode cs' :=
  List.flatMap_append

section

variable {state state' : State} {bytes more : List UInt8} {text : Text} {c : Char} {cs : List Char}

/-! ### Blocks -/

/-- To read bytes in two parts is to read them at once. -/
theorem readBlock?_append (state : State) (bytes more : List UInt8) :
    readBlock? state (bytes ++ more) =
      (readBlock? state bytes).bind fun r => (readBlock? r.1 more).map fun r' => (r'.1, r.2 ++ r'.2) := by
  induction bytes generalizing state with
  | nil =>
    cases h : readBlock? state more <;> simp [readBlock?, h]
  | cons b bytes ih =>
    rw [List.cons_append, readBlock?, readBlock?]
    cases step? state b.toNat with
    | none => rfl
    | some next =>
      simp only [bind, Option.bind, ih]
      cases readBlock? next.1 bytes with
      | none => rfl
      | some r => cases h : readBlock? r.1 more <;> simp [h]

/-- To read bytes in blocks is to read them at once, as long as every byte fits. -/
theorem readBlocks_blocks {size : Nat} (hsize : 0 < size) (h : readBlock? state bytes = some (state', text)) :
    readBlocks state (blocks size bytes) = ⟨text, state' != .between⟩ := by
  induction bytes using blocks.induct size generalizing state text with
  | case1 bytes hend =>
    obtain hbytes | rfl := hend
    · rw [List.isEmpty_iff] at hbytes
      subst hbytes
      cases h
      rw [blocks]
      rfl
    · cases hsize
  | case2 bytes hbytes ih =>
    rw [blocks, if_neg hbytes, readBlocks]
    rw [← List.take_append_drop size bytes, readBlock?_append] at h
    obtain ⟨⟨middle, first⟩, hfirst, h⟩ := Option.bind_eq_some_iff.1 h
    obtain ⟨⟨_, second⟩, hsecond, hboth⟩ := Option.map_eq_some_iff.1 h
    cases hboth
    simp only [hfirst, ih hsecond]

/-! ### Characters -/

section Characters

variable {b₀ b₁ b₂ b₃ n value owed low high : Nat}

theorem readBlock?_ofNat {done : Text} (h : step? state n = some (state', done)) (hn : n < 256) :
    readBlock? state (.ofNat n :: bytes) = (readBlock? state' bytes).map fun r => (r.1, done ++ r.2) := by
  rw [readBlock?, UInt8.toNat_ofNat', Nat.mod_eq_of_lt hn, h]
  cases h' : readBlock? state' bytes <;> simp [h']

theorem step?_more (hlow : low ≤ n) (hhigh : n ≤ high) (howed : 1 < owed) :
    step? (.inside value owed low high) n =
      some (.inside (value * 64 + (n - 0x80)) (owed - 1) 0x80 0xBF, []) := by
  rw [step?, if_neg (by omega), if_pos howed]

theorem step?_last (hlow : low ≤ n) (hhigh : n ≤ high) (hc : value * 64 + (n - 0x80) = c.toNat) :
    step? (.inside value 1 low high) n = some (.between, [.char c]) := by
  have hchar : CodePoint.ofNat c.toNat = .char c := CodePoint.ofNat_toNat (.char c)
  simp only [step?]
  rw [if_neg (by omega), if_neg (by decide), hc, hchar]
  rfl

theorem readBlock?_one (h : n < 0x80) (hc : n = c.toNat) :
    readBlock? .between [.ofNat n] = some (.between, [.char c]) := by
  have hchar : CodePoint.ofNat c.toNat = .char c := CodePoint.ofNat_toNat (.char c)
  have hfirst : step? .between n = some (.between, [.char c]) := by
    rw [step?, first?, if_pos h, hc, hchar]
  rw [readBlock?_ofNat hfirst (by omega)]
  rfl

theorem readBlock?_two (h₀ : 0xC2 ≤ b₀ ∧ b₀ ≤ 0xDF) (h₁ : 0x80 ≤ b₁ ∧ b₁ ≤ 0xBF)
    (hc : (b₀ - 0xC0) * 64 + (b₁ - 0x80) = c.toNat) :
    readBlock? .between [.ofNat b₀, .ofNat b₁] = some (.between, [.char c]) := by
  have hfirst : step? .between b₀ = some (.inside (b₀ - 0xC0) 1 0x80 0xBF, []) := by
    rw [step?, first?, if_neg (by omega), if_pos h₀]
  rw [readBlock?_ofNat hfirst (by omega), readBlock?_ofNat (step?_last h₁.1 h₁.2 hc) (by omega)]
  rfl

/-- After the byte E0 the next one is not below A0, since the character would have two bytes. -/
theorem readBlock?_three (h₀ : 0xE0 ≤ b₀ ∧ b₀ ≤ 0xEF) (h₁ : 0x80 ≤ b₁ ∧ b₁ ≤ 0xBF)
    (h₂ : 0x80 ≤ b₂ ∧ b₂ ≤ 0xBF) (hlow : b₀ = 0xE0 → 0xA0 ≤ b₁)
    (hc : ((b₀ - 0xE0) * 64 + (b₁ - 0x80)) * 64 + (b₂ - 0x80) = c.toNat) :
    readBlock? .between [.ofNat b₀, .ofNat b₁, .ofNat b₂] = some (.between, [.char c]) := by
  obtain ⟨low, hfirst, hb₁⟩ :
      ∃ low, step? .between b₀ = some (.inside (b₀ - 0xE0) 2 low 0xBF, []) ∧ low ≤ b₁ := by
    obtain rfl | hne := eq_or_ne b₀ 0xE0
    · exact ⟨0xA0, rfl, hlow rfl⟩
    · refine ⟨0x80, ?_, h₁.1⟩
      rw [step?, first?, if_neg (by omega), if_neg (by omega), if_neg hne, if_pos (by omega)]
  rw [readBlock?_ofNat hfirst (by omega), readBlock?_ofNat (step?_more hb₁ h₁.2 (by decide)) (by omega),
    readBlock?_ofNat (step?_last h₂.1 h₂.2 hc) (by omega)]
  rfl

/-- After the byte F0 the next one is not below 90, since the character would have three bytes, and after F4
it is not above 8F, since there are no such characters. -/
theorem readBlock?_four (h₀ : 0xF0 ≤ b₀ ∧ b₀ ≤ 0xF4) (h₁ : 0x80 ≤ b₁ ∧ b₁ ≤ 0xBF)
    (h₂ : 0x80 ≤ b₂ ∧ b₂ ≤ 0xBF) (h₃ : 0x80 ≤ b₃ ∧ b₃ ≤ 0xBF) (hlow : b₀ = 0xF0 → 0x90 ≤ b₁)
    (hhigh : b₀ = 0xF4 → b₁ ≤ 0x8F)
    (hc : (((b₀ - 0xF0) * 64 + (b₁ - 0x80)) * 64 + (b₂ - 0x80)) * 64 + (b₃ - 0x80) = c.toNat) :
    readBlock? .between [.ofNat b₀, .ofNat b₁, .ofNat b₂, .ofNat b₃] = some (.between, [.char c]) := by
  obtain ⟨low, high, hfirst, hb₁⟩ : ∃ low high,
      step? .between b₀ = some (.inside (b₀ - 0xF0) 3 low high, []) ∧ low ≤ b₁ ∧ b₁ ≤ high := by
    obtain rfl | hne := eq_or_ne b₀ 0xF0
    · exact ⟨0x90, 0xBF, rfl, hlow rfl, h₁.2⟩
    obtain rfl | hne' := eq_or_ne b₀ 0xF4
    · exact ⟨0x80, 0x8F, rfl, h₁.1, hhigh rfl⟩
    · refine ⟨0x80, 0xBF, ?_, h₁⟩
      rw [step?, first?, if_neg (by omega), if_neg (by omega), if_neg (by omega), if_neg (by omega), if_neg hne,
        if_pos (by omega)]
  rw [readBlock?_ofNat hfirst (by omega), readBlock?_ofNat (step?_more hb₁.1 hb₁.2 (by decide)) (by omega),
    readBlock?_ofNat (step?_more h₂.1 h₂.2 (by decide)) (by omega),
    readBlock?_ofNat (step?_last h₃.1 h₃.2 hc) (by omega)]
  rfl

/-- A character is read from the bytes that it is written as. -/
theorem readBlock?_utf8EncodeChar (c : Char) :
    readBlock? .between (String.utf8EncodeChar c) = some (.between, [.char c]) := by
  have hvalid : c.toNat < 0xD800 ∨ 0xDFFF < c.toNat ∧ c.toNat < 0x110000 := c.valid
  have hval : c.val.toNat = c.toNat := rfl
  fun_cases String.utf8EncodeChar c with
  | case1 v h => exact readBlock?_one (by omega) hval
  | case2 v h h' => exact readBlock?_two (by omega) (by omega) (by omega)
  | case3 v h h' h'' => exact readBlock?_three (by omega) (by omega) (by omega) (by omega) (by omega)
  | case4 v h h' h'' =>
    exact readBlock?_four (by omega) (by omega) (by omega) (by omega) (by omega) (by omega) (by omega)

end Characters

/-- A text is read from the bytes that it is written as. -/
theorem readBlock?_encode (cs : List Char) :
    readBlock? .between (encode cs) = some (.between, cs.map .char) := by
  induction cs with
  | nil => rfl
  | cons c cs ih =>
    have hbytes : encode (c :: cs) = String.utf8EncodeChar c ++ encode cs := List.flatMap_cons
    rw [hbytes, readBlock?_append, readBlock?_utf8EncodeChar, Option.bind_some, ih]
    rfl

/-! ### Cut texts -/

theorem ne_nil_of_step?_between {b : Nat} (h : step? state b = some (.between, text)) : text ≠ [] := by
  rintro rfl
  simp only [step?, first?] at h
  split at h
  · split_ifs at h <;> cases h
  · split_ifs at h <;> cases h

/-- Between two characters nothing but a character leads to between two characters. -/
theorem eq_nil_of_readBlock?_between (h : readBlock? state bytes = some (.between, [])) :
    bytes = [] ∧ state = .between := by
  induction bytes generalizing state with
  | nil =>
    cases h
    exact ⟨rfl, rfl⟩
  | cons b bytes ih =>
    rw [readBlock?] at h
    obtain ⟨⟨next, done⟩, hstep, h⟩ := Option.bind_eq_some_iff.1 h
    obtain ⟨⟨last, rest⟩, hrest, h⟩ := Option.bind_eq_some_iff.1 h
    obtain ⟨rfl, hnil⟩ := Prod.ext_iff.1 (Option.some.inj h)
    obtain ⟨rfl, rfl⟩ := List.append_eq_nil_iff.1 hnil
    obtain ⟨-, rfl⟩ := ih hrest
    exact absurd rfl (ne_nil_of_step?_between hstep)

theorem eq_nil_of_readBlock?_append {left : List UInt8} (h : readBlock? .between bytes = some (.between, text))
    (h' : readBlock? .between (bytes ++ left) = some (.between, text)) : left = [] := by
  rw [readBlock?_append, h, Option.bind_some] at h'
  obtain ⟨⟨_, later⟩, hlater, hboth⟩ := Option.map_eq_some_iff.1 h'
  obtain ⟨rfl, htext⟩ := Prod.ext_iff.1 hboth
  obtain rfl := List.append_right_eq_self.1 htext
  exact (eq_nil_of_readBlock?_between hlater).1

/-- **Of bytes at the beginning of a text its complete characters are read,** and the reading stands between two
characters if the bytes are what these characters are written as. -/
theorem exists_readBlock?_of_prefix (h : bytes <+: encode cs) :
    ∃ state whole, whole <+: cs ∧ readBlock? .between bytes = some (state, whole.map .char) ∧
      (state = .between ↔ bytes = encode whole) := by
  obtain ⟨more, hmore⟩ := h
  have hall := readBlock?_encode cs
  rw [← hmore, readBlock?_append] at hall
  obtain ⟨⟨state, text⟩, hbytes, hall⟩ := Option.bind_eq_some_iff.1 hall
  obtain ⟨⟨_, later⟩, -, hboth⟩ := Option.map_eq_some_iff.1 hall
  obtain ⟨rfl, htext⟩ := Prod.ext_iff.1 hboth
  obtain ⟨whole, rest, rfl, rfl, rfl⟩ := List.map_eq_append_iff.1 htext.symm
  refine ⟨state, whole, List.prefix_append _ _, hbytes, ?_, ?_⟩
  · rintro rfl
    have hwhole := readBlock?_encode whole
    have hsplit : bytes ++ more = encode whole ++ encode rest := hmore.trans (encode_append _ _)
    -- one of the two continues the other, and nothing is read of what it adds
    rcases List.prefix_or_prefix_of_prefix ⟨more, hsplit⟩ ⟨encode rest, rfl⟩ with ⟨left, hleft⟩ | ⟨left, hleft⟩
    · rw [← hleft] at hwhole ⊢
      rw [eq_nil_of_readBlock?_append hbytes hwhole, List.append_nil]
    · rw [← hleft] at hbytes ⊢
      rw [eq_nil_of_readBlock?_append hwhole hbytes, List.append_nil]
  · rintro rfl
    rw [readBlock?_encode] at hbytes
    exact (congrArg Prod.fst (Option.some.inj hbytes)).symm

end

end JournalHerald.Utf8

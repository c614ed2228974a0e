import JournalHerald.Text.Lowercase

/-!
# Lower case of ASCII texts

No rule of context touches the characters of ASCII, so that a text of them is lowered character by
character (`lowercase_of_isAscii`), and to lower it twice is to lower it once
(`lowercase_lowercase_of_isAscii`).
-/

namespace JournalHerald

/-- A code point is one of ASCII. -/
def CodePoint.IsAscii (c : CodePoint) : Prop := c.toNat < 128

namespace CodePoint

theorem toNat_asciiLower (c : CodePoint) :
    c.asciiLower.toNat = if 65 ≤ c.toNat ∧ c.toNat ≤ 90 then c.toNat + 32 else c.toNat := by
  cases c with
  | surrogate index =>
    rw [if_neg]
    · rfl
    · show ¬(_ ∧ 0xD800 + index.val ≤ 90)
      omega
  | char c =>
    show c.toLower.toNat = if 65 ≤ c.toNat ∧ c.toNat ≤ 90 then c.toNat + 32 else c.toNat
    delta Char.toLower
    split
    · next hcapital =>
      have hle : c.toNat ≤ 90 := hcapital.2
      rw [if_pos ⟨hcapital.1, hle⟩]
      show (c.val + 32).toNat = c.toNat + 32
      rw [UInt32.toNat_add, Nat.mod_eq_of_lt]
      · rfl
      · show c.toNat + 32 < 2 ^ 32
        omega
    · next hcapital => exact (if_neg hcapital).symm

theorem isAscii_asciiLower {c : CodePoint} (h : c.IsAscii) : c.asciiLower.IsAscii := by
  unfold IsAscii at h ⊢
  rw [toNat_asciiLower]
  split <;> omega

theorem asciiLower_asciiLower (c : CodePoint) : c.asciiLower.asciiLower = c.asciiLower := by
  cases c with
  | surrogate index => rfl
  | char c =>
    have hchar : c.toLower.toLower = c.toLower := by
      delta Char.toLower
      grind
    exact congrArg char hchar

end CodePoint

namespace Text

theorem lowercaseFrom_of_isAscii {t : Text} (h : ∀ c ∈ t, c.IsAscii) (inWord : Bool) :
    lowercaseFrom inWord t = t.map CodePoint.asciiLower := by
  induction t generalizing inWord with
  | nil => rfl
  | cons c t ih =>
    obtain ⟨hc, ht⟩ := List.forall_mem_cons.1 h
    have hsigma : c ≠ .char 'Σ' := by
      rintro rfl
      exact absurd hc (by unfold CodePoint.IsAscii; decide)
    have hlower : lowercaseChar c = [c.asciiLower] := if_pos hc
    rw [lowercaseFrom, if_neg hsigma, hlower, ih ht]
    rfl

/-- **A text of ASCII is lowered character by character.** -/
theorem lowercase_of_isAscii {t : Text} (h : ∀ c ∈ t, c.IsAscii) :
    lowercase t = t.map CodePoint.asciiLower :=
  lowercaseFrom_of_isAscii h false

theorem isAscii_lowercase {t : Text} (h : ∀ c ∈ t, c.IsAscii) : ∀ c ∈ lowercase t, c.IsAscii := by
  rw [lowercase_of_isAscii h]
  intro c hc
  obtain ⟨d, hd, rfl⟩ := List.mem_map.1 hc
  exact CodePoint.isAscii_asciiLower (h d hd)

theorem lowercase_lowercase_of_isAscii {t : Text} (h : ∀ c ∈ t, c.IsAscii) :
    lowercase (lowercase t) = lowercase t := by
  rw [lowercase_of_isAscii (isAscii_lowercase h), lowercase_of_isAscii h, List.map_map]
  congr 1
  funext c
  exact CodePoint.asciiLower_asciiLower c

end Text

end JournalHerald

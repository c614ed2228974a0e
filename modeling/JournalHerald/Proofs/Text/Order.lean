import JournalHerald.Text
import Mathlib.Data.List.Lex
import Mathlib.Data.Nat.Basic

/-!
# Code points and texts by their numbers

A code point is told by its number and a text by the numbers of its code points. The order of texts is the
lexicographic one of these numbers (`before_iff`), so that all laws of a linear order hold of it.
-/

namespace JournalHerald

namespace CodePoint

/-- No character has a number among those of the surrogates. -/
theorem toNat_valid (c : Char) : c.toNat < 0xD800 ∨ 0xDFFF < c.toNat ∧ c.toNat < 0x110000 :=
  c.valid

theorem ofNat_toNat (c : CodePoint) : ofNat c.toNat = c := by
  cases c with
  | char c =>
    have hvalid := toNat_valid c
    have hrange : ¬(0xD800 ≤ c.toNat ∧ c.toNat < 0xE000) := by omega
    rw [ofNat, toNat, dif_neg hrange, Char.ofNat_toNat]
  | surrogate index =>
    have hrange : 0xD800 ≤ 0xD800 + index.val ∧ 0xD800 + index.val < 0xE000 := by omega
    rw [ofNat, toNat, dif_pos hrange]
    exact congrArg surrogate (Fin.ext (Nat.add_sub_cancel_left ..))

theorem toNat_injective : Function.Injective toNat :=
  Function.LeftInverse.injective ofNat_toNat

end CodePoint

namespace Text

/-- The numbers of the code points of a text. -/
def numbers (t : Text) : List Nat :=
  t.map CodePoint.toNat

theorem numbers_injective : Function.Injective numbers :=
  CodePoint.toNat_injective.list_map

/-- **The order of texts is the lexicographic order of their numbers.** -/
theorem before_iff {s t : Text} : before s t = true ↔ s.numbers < t.numbers := by
  unfold numbers
  induction s generalizing t with
  | nil =>
    cases t with
    | nil => simp [before]
    | cons d t => simp [before]
  | cons c s ih =>
    cases t with
    | nil => simp [before]
    | cons d t =>
      rw [before, List.map_cons, List.map_cons, List.cons_lt_cons_iff]
      by_cases hcd : c = d
      · subst hcd
        rw [if_pos rfl, ih]
        simp
      · have hne : c.toNat ≠ d.toNat := CodePoint.toNat_injective.ne hcd
        rw [if_neg hcd, decide_eq_true_iff]
        simp [hne]

end Text

end JournalHerald

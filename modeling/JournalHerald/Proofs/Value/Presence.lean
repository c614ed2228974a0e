import JournalHerald.Chronicle.History
import Mathlib.Data.List.TakeWhile

/-!
# Present values

Whether a value counts as known is decided twice: a filter asks whether the value is null or a
blank text, and a row of the statistics asks whether anything is left of its text when it is
trimmed. The two agree on every value (`isSome_normalized`), since whatever is no text has a text
with something to see in it (`visible_comparedText`).
-/

namespace JournalHerald

namespace Text

/-! ### Texts with something to see -/

/-- Some character of the text is not blank. -/
def Visible (t : Text) : Prop := ∃ c ∈ t, isBlank c = false

theorem isBlankText_eq_false_iff {t : Text} : isBlankText t = false ↔ Visible t := by
  simp [isBlankText, Visible]

theorem Visible.append_left {t : Text} (h : Visible t) (before : Text) : Visible (before ++ t) := by
  obtain ⟨c, hc, hblank⟩ := h
  exact ⟨c, List.mem_append_right _ hc, hblank⟩

theorem Visible.append_right {t : Text} (h : Visible t) (after : Text) : Visible (t ++ after) := by
  obtain ⟨c, hc, hblank⟩ := h
  exact ⟨c, List.mem_append_left _ hc, hblank⟩

theorem dropWhile_eq_nil_iff_not_visible {t : Text} : t.dropWhile isBlank = [] ↔ ¬Visible t := by
  simp [List.dropWhile_eq_nil_iff, Visible]

/-- Trimming leaves something exactly of the texts with something to see. -/
theorem trim_ne_nil_iff {t : Text} : trim t ≠ [] ↔ Visible t := by
  rw [trim, trimBoth, dropWhileEnd, ne_eq, List.reverse_eq_nil_iff, dropWhile_eq_nil_iff_not_visible,
    not_not]
  constructor
  · rintro ⟨c, hc, hblank⟩
    exact ⟨c, (List.dropWhile_sublist _).subset (List.mem_reverse.1 hc), hblank⟩
  · intro h
    -- the first character that is kept is not blank
    have hne : t.dropWhile isBlank ≠ [] := fun hnil => dropWhile_eq_nil_iff_not_visible.1 hnil h
    refine ⟨(t.dropWhile isBlank).head hne, List.mem_reverse.2 (List.head_mem hne), ?_⟩
    simpa using List.head_dropWhile_not isBlank hne

theorem visible_natText (n : Nat) : Visible (natText n) := by
  obtain ⟨c, cs, hcs⟩ := List.exists_cons_of_ne_nil (Nat.toDigits_ne_nil (n := n) (b := 10))
  have hc : c.isDigit = true :=
    Nat.isDigit_of_mem_toDigits (n := n) (b := 10) (by omega) (by omega)
      (hcs ▸ List.mem_cons_self ..)
  refine ⟨.char c, by simp [natText, hcs], ?_⟩
  have hrange : 48 ≤ c.toNat ∧ c.toNat ≤ 57 := by
    simpa [Char.isDigit, UInt32.le_iff_toNat_le] using hc
  have hn : (CodePoint.char c).toNat = c.toNat := rfl
  rw [Bool.eq_false_iff]
  intro h
  simp only [isBlank, isWhiteSpace, hn, Bool.or_eq_true, Bool.and_eq_true, decide_eq_true_eq,
    beq_iff_eq] at h
  omega

theorem visible_intText (i : Int) : Visible (intText i) := by
  unfold intText
  split
  · exact (visible_natText _).append_left ['-']
  · exact visible_natText _

end Text

open Text

/-! ### The texts of values -/

theorem Shortest.visible_layout (digits : Text) (point : Int) : Visible (layout digits point) := by
  have hdot : Visible "." := ⟨.char '.', by decide, by decide⟩
  have hzero : Visible "0." := ⟨.char '.', by decide, by decide⟩
  have hend : Visible ".0" := ⟨.char '.', by decide, by decide⟩
  have hmark : ∀ e : Int, Visible (if e < 0 then "e-" else "e+") := by
    intro e
    split <;> exact ⟨.char 'e', by decide, by decide⟩
  simp only [layout]
  split
  · split
    · exact (hzero.append_right _).append_right _
    · split
      · exact hend.append_left _
      · exact (hdot.append_left _).append_right _
  · exact ((hmark _).append_left _).append_right _

theorem Double.visible_text (x : Double) : Visible x.text := by
  cases x with
  | nan => exact ⟨.char 'n', by decide, by decide⟩
  | infinite negative => cases negative <;> exact ⟨.char 'i', by decide, by decide⟩
  | finite negative mantissa exponent => exact (Shortest.visible_layout _ _).append_left _

theorem Duration.visible_clock (d : Duration) : Visible d.clock := by
  have hcolon : Visible ":" := ⟨.char ':', by decide, by decide⟩
  unfold clock
  exact (((hcolon.append_left _).append_right _).append_left _).append_right _

theorem Timestamp.visible_isoDate (t : Timestamp) : Visible t.isoDate := by
  have hdash : Visible "-" := ⟨.char '-', by decide, by decide⟩
  exact (hdash.append_left _).append_right _

theorem Timestamp.visible_iso (separator : Text) (t : Timestamp) : Visible (t.iso separator) := by
  unfold iso
  simp only [List.append_assoc]
  exact t.visible_isoDate.append_right _

namespace Value

/-- **What is no text compares by a text with something to see in it.** -/
theorem visible_comparedText {v : Value} (hv : ∀ s, v ≠ .text s) : Visible v.comparedText := by
  cases v with
  | null => exact ⟨.char 'N', by decide, by decide⟩
  | bool b => cases b <;> exact ⟨.char 'e', by decide, by decide⟩
  | int i => exact visible_intText i
  | float x => exact x.visible_text
  | text s => exact absurd rfl (hv s)
  | list items => exact ⟨.char '[', List.mem_cons_self .., by decide⟩
  | object fields => exact ⟨.char '\x7b', List.mem_cons_self .., by decide⟩
  | ship s => cases s <;> exact ⟨_, List.mem_cons_self .., by decide⟩
  | body b => cases b <;> exact ⟨_, List.mem_cons_self .., by decide⟩
  | style s => cases s <;> exact ⟨_, List.mem_cons_self .., by decide⟩
  | duration d => exact d.visible_clock
  | moment t => exact t.visible_iso " "
  | date t => exact t.visible_isoDate
  | part p => exact ⟨.char 'M', List.mem_cons_self .., by decide⟩

theorem isPresent_iff {v : Value} :
    v.isPresent = true ↔ v.isNull = false ∧ Visible v.comparedText := by
  cases v with
  | null => simp [isPresent, isNull]
  | text s => simp [isPresent, isNull, comparedText, display, ← isBlankText_eq_false_iff]
  | _ => simp [isPresent, isNull, visible_comparedText]

/-- **A value compares as something exactly if it is present.** -/
theorem isSome_normalized (v : Value) : v.normalized.isSome = v.isPresent := by
  rw [Bool.eq_iff_iff, isPresent_iff, ← trim_ne_nil_iff, normalized]
  cases hnull : v.isNull with
  | true => simp
  | false =>
    show (if trim v.comparedText = [] then none else some _).isSome = true ↔ _
    by_cases h : trim v.comparedText = [] <;> simp [h]

theorem normalized_eq_none_iff {v : Value} : v.normalized = none ↔ v.isPresent = false := by
  rw [← isSome_normalized, Option.isSome_eq_false_iff, Option.isNone_iff_eq_none]

end Value

end JournalHerald

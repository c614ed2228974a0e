import JournalHerald.Text.Digits
import Mathlib.Data.Nat.Digits.Defs
import Mathlib.Tactic.IntervalCases

/-!
# Whole numbers in texts

The decimal digits of a number, one by one, and the number that they denote.

* `Text.natText_of_lt` and `Text.natText_of_le` give the digits of a number from the last one on,
  `Text.zeroPadded_succ` those of a number with leading zeros;
* `Text.ofDigits_natText` says that they denote the number.
-/

namespace JournalHerald

namespace Text

variable {n d : Nat}

/-- The digit with a value below ten. -/
def digit (d : Nat) : CodePoint :=
  .char (Nat.digitChar d)

theorem natText_of_lt (h : n < 10) : natText n = [digit n] := by
  rw [natText, Nat.toDigits_of_lt_base h]
  rfl

theorem natText_of_le (h : 10 ≤ n) : natText n = natText (n / 10) ++ [digit (n % 10)] := by
  rw [natText, Nat.toDigits_of_base_le (by decide) h, List.map_append]
  rfl

/-- A number other than zero has no zero in front. -/
theorem natText_eq_digit_cons (n : Nat) : ∃ d ds, natText n = digit d :: ds ∧ d < 10 ∧ (d = 0 → n = 0) := by
  induction n using Nat.strongRecOn with
  | ind n ih =>
    obtain hlt | hle := Nat.lt_or_ge n 10
    · exact ⟨n, [], natText_of_lt hlt, hlt, id⟩
    · obtain ⟨d, ds, htext, hd, hzero⟩ := ih (n / 10) (by omega)
      refine ⟨d, ds ++ [digit (n % 10)], by rw [natText_of_le hle, htext, List.cons_append], hd, ?_⟩
      intro h
      have := hzero h
      omega

theorem length_natText_le_iff {k : Nat} (hk : 0 < k) : (natText n).length ≤ k ↔ n < 10 ^ k := by
  rw [natText, List.length_map]
  exact Nat.length_toDigits_le_iff (by decide) hk

theorem isAsciiDigit_iff {c : CodePoint} : isAsciiDigit c = true ↔ 48 ≤ c.toNat ∧ c.toNat ≤ 57 := by
  rw [isAsciiDigit, asciiDigitValue?]
  split
  · next h => exact iff_of_true rfl h
  · next h => exact iff_of_false Bool.false_ne_true h

theorem isAsciiDigit_of_mem_natText {c : CodePoint} (h : c ∈ natText n) : isAsciiDigit c = true := by
  obtain ⟨d, hd, rfl⟩ := List.mem_map.1 h
  have hdigit : d.isDigit = true := Nat.isDigit_of_mem_toDigits (by decide) (by decide) hd
  exact isAsciiDigit_iff.2 (Char.isDigit_iff_toNat.1 hdigit)

theorem ofDigits_natText (n : Nat) : ofDigits ((natText n).map fun c => c.toNat - 48) = n := by
  have hvalue := Nat.ofDigitChars_ten_toDigits (n := n)
  rw [Nat.ofDigitChars_eq_foldl] at hvalue
  rw [natText, ofDigits, List.map_map, List.foldl_map]
  exact hvalue

/-- Zeros in front do not count. -/
theorem ofDigits_zeroPadded (width n : Nat) :
    ofDigits ((zeroPadded width n).map fun c => c.toNat - 48) = n := by
  have hzeros : ∀ k ds, ofDigits (List.replicate k 0 ++ ds) = ofDigits ds := by
    intro k ds
    induction k with
    | zero => rfl
    | succ k ih => exact ih
  rw [zeroPadded, List.map_append, List.map_replicate]
  exact (hzeros _ _).trans (ofDigits_natText n)

/-- The last digit is the remainder by ten, and the leading zeros stay with the others. -/
theorem zeroPadded_succ {width : Nat} (hwidth : 0 < width) (n : Nat) :
    zeroPadded (width + 1) n = zeroPadded width (n / 10) ++ [digit (n % 10)] := by
  obtain hlt | hle := Nat.lt_or_ge n 10
  · obtain ⟨width, rfl⟩ := Nat.exists_eq_add_one_of_ne_zero hwidth.ne'
    have hzero : n / 10 = 0 := by omega
    have hsame : n % 10 = n := by omega
    rw [hzero, hsame, zeroPadded, zeroPadded, natText_of_lt hlt, natText_of_lt (by decide)]
    simp [List.replicate_succ', digit]
  · simp only [zeroPadded, natText_of_le hle, List.length_append, List.length_singleton,
      Nat.add_sub_add_right, List.append_assoc]

theorem zeroPadded_one (h : n < 10) : zeroPadded 1 n = [digit n] := by
  rw [zeroPadded, natText_of_lt h]
  rfl

theorem zeroPadded_two (h : n < 100) : zeroPadded 2 n = [digit (n / 10), digit (n % 10)] := by
  rw [zeroPadded_succ (by decide), zeroPadded_one (by omega)]
  rfl

theorem zeroPadded_four (h : n < 10000) :
    zeroPadded 4 n = [digit (n / 1000), digit (n / 100 % 10), digit (n / 10 % 10), digit (n % 10)] := by
  rw [zeroPadded_succ (by decide), zeroPadded_succ (by decide), zeroPadded_two (by omega)]
  simp only [Nat.div_div_eq_div_mul]
  rfl

@[simp] theorem asciiDigitValue?_digit (h : d < 10) : asciiDigitValue? (digit d) = some d := by
  interval_cases d <;> rfl

/-- A digit is none of the marks in a time stamp. -/
theorem digit_ne_char (h : d < 10) {c : Char} (hc : c.isDigit = false) : digit d ≠ .char c := by
  intro heq
  have hdigit : (Nat.digitChar d).isDigit = true := by interval_cases d <;> rfl
  rw [CodePoint.char.inj heq, hc] at hdigit
  cases hdigit

theorem mem_zeroPadded_two (h : n < 100) {c : CodePoint} (hc : c ∈ zeroPadded 2 n) :
    ∃ d < 10, c = digit d := by
  rw [zeroPadded_two h, List.mem_cons, List.mem_singleton] at hc
  obtain rfl | rfl := hc
  · exact ⟨n / 10, by omega, rfl⟩
  · exact ⟨n % 10, by omega, rfl⟩

theorem mem_zeroPadded_four (h : n < 10000) {c : CodePoint} (hc : c ∈ zeroPadded 4 n) :
    ∃ d < 10, c = digit d := by
  have hhead : n / 100 < 100 := by omega
  have hlast : n % 100 < 100 := by omega
  have hsplit : zeroPadded 4 n = zeroPadded 2 (n / 100) ++ zeroPadded 2 (n % 100) := by
    have htens : n % 100 / 10 = n / 10 % 10 := by omega
    have hunits : n % 100 % 10 = n % 10 := by omega
    rw [zeroPadded_four h, zeroPadded_two hhead, zeroPadded_two hlast, Nat.div_div_eq_div_mul, htens, hunits]
    rfl
  rw [hsplit, List.mem_append] at hc
  exact hc.elim (mem_zeroPadded_two hhead) (mem_zeroPadded_two hlast)

end Text

end JournalHerald

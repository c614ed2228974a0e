import JournalHerald.Proofs.Number.Whole

/-!
# Whole parts of quotients

A quotient in double precision is rounded, and what lies just below a whole number could be carried up to it. It
is not, as long as the divisor is small against the precision: the distance of the quotient to the next whole
number is a fraction with that divisor, and then at least half a unit in the last place.

* `Double.divNearest_mul_div` is about the mantissa, `Double.floorLog2_lt` about the exponent;
* `Double.toInt?_ofRatio` is the main statement.
-/

namespace JournalHerald.Double

variable {n d j k m : Nat}

theorem div_le_divNearest (n d : Nat) : n / d ≤ divNearest n d := by
  unfold divNearest
  dsimp only
  split <;> omega

theorem divNearest_zero (d : Nat) : divNearest 0 d = 0 := by
  simp [divNearest]

/-- What is more than half below a whole number is rounded to a smaller one. -/
theorem divNearest_lt (h : 2 * n + d < 2 * (m * d)) : divNearest n d < m := by
  have hsplit : d * (n / d) + n % d = n := Nat.div_add_mod n d
  by_contra hle
  rw [Nat.not_lt] at hle
  -- a larger quotient would take more than `n`
  have hmul : m * d ≤ divNearest n d * d := Nat.mul_le_mul_right d hle
  unfold divNearest at hmul
  dsimp only at hmul
  split at hmul
  · rw [Nat.add_mul, Nat.one_mul, Nat.mul_comm (n / d)] at hmul
    omega
  · rw [Nat.mul_comm (n / d)] at hmul
    omega

/-- To round a quotient with `k` binary places to the nearest does not change its whole part. -/
theorem divNearest_mul_div (hd : 0 < d) (hsmall : d < 2 ^ (k + 1)) : divNearest (n * 2 ^ k) d / 2 ^ k = n / d := by
  have hpow : 0 < 2 ^ k := Nat.two_pow_pos k
  apply Nat.le_antisymm
  · rw [← Nat.lt_succ_iff, Nat.div_lt_iff_lt_mul hpow]
    apply divNearest_lt
    have hnext : n + 1 ≤ (n / d + 1) * d := by
      rw [Nat.mul_comm]
      exact Nat.lt_mul_div_succ n hd
    have hscaled := Nat.mul_le_mul_left (2 ^ (k + 1)) hnext
    rw [Nat.pow_succ] at hscaled hsmall
    calc 2 * (n * 2 ^ k) + d < 2 * (n * 2 ^ k) + 2 ^ k * 2 := by omega
      _ = 2 ^ k * 2 * (n + 1) := by ring
      _ ≤ 2 ^ k * 2 * ((n / d + 1) * d) := hscaled
      _ = 2 * ((n / d + 1) * 2 ^ k * d) := by ring
  · rw [Nat.le_div_iff_mul_le hpow]
    calc n / d * 2 ^ k ≤ n * 2 ^ k / d := by
          rw [Nat.mul_comm, Nat.mul_comm n]
          exact Nat.mul_div_le_mul_div_assoc (2 ^ k) n d
      _ ≤ divNearest (n * 2 ^ k) d := div_le_divNearest _ _

/-- The binary logarithm of a quotient below `2 ^ j` is below `j`. -/
theorem floorLog2_lt (hn : 0 < n) (hlt : n < d * 2 ^ j) : floorLog2 n d < j := by
  -- the difference of the logarithms is `j` at most
  have hdiff : n.log2 < d.log2 + 1 + j := by
    rw [Nat.log2_lt hn.ne', Nat.pow_add]
    exact hlt.trans_le (Nat.mul_le_mul_right _ Nat.lt_log2_self.le)
  unfold floorLog2
  dsimp only
  obtain hlog | hlog : (n.log2 : Int) - d.log2 = (j : Nat) ∨ (n.log2 : Int) - d.log2 < j := by omega
  · rw [hlog, scaled_natCast, if_neg (Nat.not_le.2 hlt)]
    omega
  · split <;> omega

theorem toInt?_finite_neg (m k : Nat) : (finite false m (-k)).toInt? = some ((m / 2 ^ k : Nat) : Int) := by
  cases k with
  | zero => simp [toInt?, signed]
  | succ k =>
    have hneg : ¬(0 ≤ -((k + 1 : Nat) : Int)) := by omega
    rw [toInt?, if_neg hneg, Int.neg_neg, Int.toNat_natCast]
    rfl

/-- A quotient below `2 ^ j` is rounded to a number of binary places, at least `53 - j` of them. -/
theorem exists_toInt?_ofRatio (hlt : n < d * 2 ^ j) (hj : j < 52) :
    ∃ k, 53 - j ≤ k ∧ (ofRatio false n d).toInt? = some ((divNearest (n * 2 ^ k) d / 2 ^ k : Nat) : Int) := by
  obtain rfl | hn := Nat.eq_zero_or_pos n
  · have hzero : ofRatio false 0 d = finite false 0 (-(1074 : Nat)) := if_pos rfl
    refine ⟨1074, by omega, ?_⟩
    rw [hzero, toInt?_finite_neg, Nat.zero_mul, divNearest_zero]
  have hlog := floorLog2_lt hn hlt
  -- the exponent, with its sign changed
  obtain ⟨k, hk⟩ : ∃ k : Nat, max (floorLog2 n d - 52) minExponent = -((k + 1 : Nat) : Int) := by
    refine ⟨(-max (floorLog2 n d - 52) minExponent).toNat - 1, ?_⟩
    rw [minExponent]
    omega
  have hplaces : 53 - j ≤ k + 1 := by
    rw [minExponent] at hk
    omega
  have hfinite : ¬maxExponent < -((k + 1 : Nat) : Int) := by
    rw [maxExponent]
    omega
  refine ⟨k + 1, hplaces, ?_⟩
  rw [ofRatio, if_neg hn.ne']
  simp only [hk, scaled_neg_natCast]
  by_cases hcarry : divNearest (n * 2 ^ (k + 1)) d = Nat.pow 2 53
  · -- the mantissa has grown by a digit, which the exponent takes over
    have hexponent : -((k + 1 : Nat) : Int) + 1 = -(k : Int) := by omega
    have hfinite' : ¬maxExponent < -(k : Int) := by
      rw [maxExponent]
      omega
    simp only [if_pos hcarry, hexponent, if_neg hfinite', toInt?_finite_neg]
    rw [hcarry, Nat.pow_succ, ← Nat.div_div_eq_div_mul, Nat.div_right_comm]
  · simp only [if_neg hcarry, if_neg hfinite, toInt?_finite_neg]

/-- **The whole part of a quotient is not changed by rounding,** provided that quotient and divisor are small:
the one below `2 ^ j` and the other below `2 ^ (54 - j)`. -/
theorem toInt?_ofRatio (hd : 0 < d) (hlt : n < d * 2 ^ j) (hsmall : d < 2 ^ (54 - j)) (hj : j < 52) :
    (ofRatio false n d).toInt? = some ((n / d : Nat) : Int) := by
  obtain ⟨k, hplaces, hwhole⟩ := exists_toInt?_ofRatio hlt hj
  have hplaces' : 54 - j ≤ k + 1 := by omega
  rw [hwhole, divNearest_mul_div hd (hsmall.trans_le (Nat.pow_le_pow_right Nat.two_pos hplaces'))]

end JournalHerald.Double

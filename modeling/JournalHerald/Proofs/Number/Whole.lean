import JournalHerald.Time.Duration
import Mathlib.Tactic.Ring

/-!
# Whole numbers in double precision

A natural number below `2 ^ 53` is a double-precision number, and as long as nothing gets larger,
sums of such numbers are not rounded. So whole seconds can be added up exactly.

* `Double.whole` is a natural number as a double-precision one;
* `Double.ofRatio_mul` says that a quotient without a remainder is not rounded;
* `Double.add_whole` and `Duration.ofSeconds?_whole` are about sums and about spans of whole seconds.
-/

namespace JournalHerald

namespace Double

/-- The number nearest to a natural number. Below `2 ^ 53` it is that number. -/
def whole (n : Nat) : Double :=
  ofRatio false n 1

theorem whole_zero : whole 0 = zero := rfl

variable {n d k : Nat}

/-! ### Quotients without a remainder -/

theorem divNearest_mul (hd : 0 < d) (m : Nat) : divNearest (m * d) d = m := by
  have hquotient : m * d / d = m := Nat.mul_div_cancel m hd
  have hremainder : m * d % d = 0 := Nat.mul_mod_left m d
  have hkeep : ¬(d < 2 * 0 ∨ (2 * 0 = d ∧ m % 2 = 1)) := by omega
  rw [divNearest, hquotient, hremainder, if_neg hkeep]

theorem scaled_natCast (n d k : Nat) : scaled n d k = (n, d * 2 ^ k) := by
  simp [scaled]

theorem scaled_neg_natCast (n d k : Nat) : scaled n d (-k) = (n * 2 ^ k, d) := by
  cases k with
  | zero => simp [scaled]
  | succ k =>
    have hneg : ¬(0 ≤ -((k + 1 : Nat) : Int)) := by omega
    rw [scaled, if_neg hneg, Int.neg_neg, Int.toNat_natCast]
    rfl

/-- The binary logarithm of a quotient without a remainder is that of its value. -/
theorem floorLog2_mul (hn : 0 < n) (hd : 0 < d) : floorLog2 (n * d) d = n.log2 := by
  have hnd : n * d ≠ 0 := Nat.mul_ne_zero hn.ne' hd.ne'
  have hn₁ : 2 ^ n.log2 ≤ n := Nat.log2_self_le hn.ne'
  have hn₂ : n < 2 ^ (n.log2 + 1) := Nat.lt_log2_self
  have hd₁ : 2 ^ d.log2 ≤ d := Nat.log2_self_le hd.ne'
  have hd₂ : d < 2 ^ (d.log2 + 1) := Nat.lt_log2_self
  -- the logarithm of the product is the sum of the two, or one more
  have hlower : n.log2 + d.log2 ≤ (n * d).log2 := by
    rw [Nat.le_log2 hnd, Nat.pow_add]
    exact Nat.mul_le_mul hn₁ hd₁
  have hupper : (n * d).log2 < n.log2 + d.log2 + 2 := by
    rw [Nat.log2_lt hnd]
    calc n * d < 2 ^ (n.log2 + 1) * 2 ^ (d.log2 + 1) := Nat.mul_lt_mul'' hn₂ hd₂
      _ = 2 ^ (n.log2 + d.log2 + 2) := by ring
  have hcompare : ∀ l, d * 2 ^ l ≤ n * d ↔ 2 ^ l ≤ n := fun l => by
    rw [Nat.mul_comm n d]
    exact Nat.mul_le_mul_left_iff hd
  obtain hl | hl : (n * d).log2 = d.log2 + n.log2 ∨ (n * d).log2 = d.log2 + (n.log2 + 1) := by omega
  · have hcast : ((n * d).log2 : Int) - d.log2 = (n.log2 : Nat) := by omega
    rw [floorLog2, hcast, scaled_natCast]
    exact if_pos ((hcompare _).2 hn₁)
  · have hcast : ((n * d).log2 : Int) - d.log2 = ((n.log2 + 1 : Nat) : Int) := by omega
    rw [floorLog2, hcast, scaled_natCast]
    refine (if_neg fun hle => ?_).trans (by omega)
    exact absurd ((hcompare _).1 hle) (Nat.not_le.2 hn₂)

/-- A quotient without a remainder is not rounded if its value is below `2 ^ 53`. -/
theorem ofRatio_mul_eq_finite (hn : 0 < n) (hlt : n < 2 ^ 53) (hd : 0 < d) (negative : Bool) :
    ofRatio negative (n * d) d =
      finite negative (n * 2 ^ (52 - n.log2)) (-((52 - n.log2 : Nat) : Int)) := by
  have hlog : n.log2 < 53 := (Nat.log2_lt hn.ne').2 hlt
  have hexponent : max ((n.log2 : Int) - 52) minExponent = -((52 - n.log2 : Nat) : Int) := by
    rw [minExponent]
    omega
  have hmantissa : divNearest (n * d * 2 ^ (52 - n.log2)) d = n * 2 ^ (52 - n.log2) := by
    rw [Nat.mul_right_comm]
    exact divNearest_mul hd _
  have hbound : n * 2 ^ (52 - n.log2) < Nat.pow 2 53 := by
    calc n * 2 ^ (52 - n.log2) < 2 ^ (n.log2 + 1) * 2 ^ (52 - n.log2) :=
          Nat.mul_lt_mul_of_pos_right Nat.lt_log2_self (Nat.two_pow_pos _)
      _ = 2 ^ 53 := by rw [← Nat.pow_add]; congr 1; omega
  have hfinite : ¬maxExponent < -((52 - n.log2 : Nat) : Int) := by
    rw [maxExponent]
    omega
  rw [ofRatio, if_neg (Nat.mul_ne_zero hn.ne' hd.ne')]
  simp only [floorLog2_mul hn hd, hexponent, scaled_neg_natCast, hmantissa, if_neg hbound.ne,
    if_neg hfinite]

theorem ofRatio_mul (hlt : n < 2 ^ 53) (hd : 0 < d) : ofRatio false (n * d) d = whole n := by
  obtain rfl | hn := Nat.eq_zero_or_pos n
  · simp [whole, ofRatio]
  · have hone := ofRatio_mul_eq_finite hn hlt Nat.one_pos false
    rw [Nat.mul_one] at hone
    rw [whole, hone, ofRatio_mul_eq_finite hn hlt hd]

/-- A natural number, written with some power of two taken out of the exponent. -/
theorem exists_whole_eq (hlt : n < 2 ^ 53) : ∃ k : Nat, whole n = finite false (n * 2 ^ k) (-k) := by
  obtain rfl | hn := Nat.eq_zero_or_pos n
  · refine ⟨1074, ?_⟩
    rw [Nat.zero_mul]
    rfl
  · have hone := ofRatio_mul_eq_finite hn hlt Nat.one_pos false
    rw [Nat.mul_one] at hone
    exact ⟨_, hone⟩

/-! ### Sums -/

theorem ofScaled_neg_natCast (negative : Bool) (n k : Nat) :
    ofScaled negative n (-k) = ofRatio negative n (2 ^ k) := by
  cases k with
  | zero => simp [ofScaled]
  | succ k =>
    have hneg : ¬(0 ≤ -((k + 1 : Nat) : Int)) := by omega
    rw [ofScaled, if_neg hneg, Int.neg_neg, Int.toNat_natCast]
    rfl

/-- Sums below `2 ^ 53` are exact. -/
theorem add_whole {a b : Nat} (hlt : a + b < 2 ^ 53) : (whole a).add (whole b) = whole (a + b) := by
  obtain ⟨j, hj⟩ := exists_whole_eq (n := a) (by omega)
  obtain ⟨k, hk⟩ := exists_whole_eq (n := b) (by omega)
  -- over the smaller exponent both mantissas are multiples of one power of two
  have hmin : min (-(j : Int)) (-k) = -((max j k : Nat) : Int) := by omega
  have hj' : (-(j : Int) - -((max j k : Nat) : Int)).toNat = max j k - j := by omega
  have hk' : (-(k : Int) - -((max j k : Nat) : Int)).toNat = max j k - k := by omega
  have hsum : a * 2 ^ j * 2 ^ (max j k - j) + b * 2 ^ k * 2 ^ (max j k - k) =
      (a + b) * 2 ^ max j k := by
    rw [Nat.mul_assoc, Nat.mul_assoc, ← Nat.pow_add, ← Nat.pow_add, Nat.add_sub_cancel' (le_max_left j k),
      Nat.add_sub_cancel' (le_max_right j k), Nat.add_mul]
  have hsigned : signed false (a * 2 ^ j * Nat.pow 2 (max j k - j)) +
      signed false (b * 2 ^ k * Nat.pow 2 (max j k - k)) = (((a + b) * 2 ^ max j k : Nat) : Int) := by
    rw [← hsum]
    rfl
  rw [hj, hk, add]
  simp only [hmin, hj', hk', hsigned]
  obtain hzero | hpos := Nat.eq_zero_or_pos (a + b)
  · rw [hzero, if_pos (by simp)]
    rfl
  · have hne : (((a + b) * 2 ^ max j k : Nat) : Int) ≠ 0 :=
      Int.natCast_ne_zero.2 (Nat.mul_ne_zero hpos.ne' (Nat.two_pow_pos _).ne')
    have hnonneg : ¬(((a + b) * 2 ^ max j k : Nat) : Int) < 0 := by omega
    rw [if_neg hne, Int.natAbs_natCast, decide_eq_false hnonneg, ofScaled_neg_natCast]
    exact ofRatio_mul hlt (Nat.two_pow_pos _)

/-- A natural number is not below zero. -/
theorem atLeastZero_whole (hlt : n < 2 ^ 53) : (whole n).atLeastZero = whole n := by
  obtain ⟨k, hk⟩ := exists_whole_eq hlt
  rw [hk]
  rfl

/-! ### The parts of a whole number -/

theorem toInt?_whole (hlt : n < 2 ^ 53) : (whole n).toInt? = some (n : Int) := by
  obtain ⟨k, hk⟩ := exists_whole_eq hlt
  rw [hk]
  cases k with
  | zero => simp [toInt?, signed]
  | succ k =>
    have hneg : ¬(0 ≤ -((k + 1 : Nat) : Int)) := by omega
    have hquotient : n * 2 ^ (k + 1) / Nat.pow 2 (k + 1) = n := Nat.mul_div_cancel n (Nat.two_pow_pos _)
    rw [toInt?, if_neg hneg, Int.neg_neg, Int.toNat_natCast, hquotient]
    rfl

theorem ofScaled_zero (negative : Bool) (e : Int) :
    ofScaled negative 0 e = finite negative 0 minExponent := by
  have hzero (d : Nat) : ofRatio negative 0 d = finite negative 0 minExponent := if_pos rfl
  rw [ofScaled]
  split
  · rw [Nat.zero_mul, hzero]
  · rw [hzero]

theorem fraction_whole (hlt : n < 2 ^ 53) : (whole n).fraction = zero := by
  obtain ⟨k, hk⟩ := exists_whole_eq hlt
  rw [hk]
  cases k with
  | zero => simp [fraction, zero]
  | succ k =>
    have hneg : ¬(0 ≤ -((k + 1 : Nat) : Int)) := by omega
    have hremainder : n * 2 ^ (k + 1) % Nat.pow 2 (k + 1) = 0 := Nat.mul_mod_left n _
    rw [fraction, if_neg hneg, Int.neg_neg, Int.toNat_natCast, hremainder, ofScaled_zero]
    rfl

end Double

namespace Duration

open Double (whole)

variable {n : Nat}

/-- The span of a whole number of seconds. -/
def ofWhole (n : Nat) : Duration :=
  ⟨n * perSecond⟩

theorem ofWhole_le {m : Nat} (h : m ≤ n) : (ofWhole m).microseconds ≤ (ofWhole n).microseconds :=
  Int.mul_le_mul_of_nonneg_right (Int.ofNat_le.2 h) (by decide)

theorem ofWhole_inj {m : Nat} : ofWhole m = ofWhole n ↔ m = n := by
  simp only [ofWhole, perSecond, Duration.mk.injEq]
  omega

theorem totalSeconds_ofWhole (hlt : n < 2 ^ 53) : (ofWhole n).totalSeconds = whole n := by
  have hmicroseconds : (ofWhole n).microseconds = ((n * 1000000 : Nat) : Int) := by
    rw [ofWhole, perSecond, Int.natCast_mul]
    rfl
  have hnonneg : ¬((n * 1000000 : Nat) : Int) < 0 := by omega
  rw [totalSeconds, hmicroseconds, decide_eq_false hnonneg, Int.natAbs_natCast]
  exact Double.ofRatio_mul hlt (by decide)

/-- Spans of whole seconds that take less than a billion days are representable. -/
theorem ofWhole_isRepresentable (hlt : n < 86400000000000) : (ofWhole n).isRepresentable = true := by
  have hdays : 0 ≤ (ofWhole n).days ∧ (ofWhole n).days ≤ 999999999 := by
    simp only [ofWhole, days, perSecond, perDay]
    omega
  rw [isRepresentable, Bool.and_eq_true, decide_eq_true_iff, decide_eq_true_iff]
  omega

/-- Nothing is rounded where no fraction is left. -/
theorem roundFrom_finite_zero (i : Int) (k : Nat) : roundFrom i (.finite false 0 (-(k + 1 : Nat))) = i := by
  have hneg : ¬(0 ≤ -((k + 1 : Nat) : Int)) := by omega
  have hpow : (0 : Int) < (Nat.pow 2 (k + 1) : Nat) := Int.natCast_pos.2 (Nat.two_pow_pos _)
  have hsum : i * (Nat.pow 2 (k + 1) : Nat) + Double.signed false 0 = i * (Nat.pow 2 (k + 1) : Nat) :=
    Int.add_zero _
  have hkeep : ¬(((Nat.pow 2 (k + 1) : Nat) : Int) < 2 * 0 ∨
      (2 * 0 = ((Nat.pow 2 (k + 1) : Nat) : Int) ∧ i % 2 = 1)) := by omega
  rw [roundFrom, if_neg hneg, Int.neg_neg, Int.toNat_natCast]
  simp only [hsum, Int.mul_emod_left, Int.mul_ediv_cancel i hpow.ne', if_neg hkeep]

/-- A number of seconds whose microseconds have no fraction is turned into a span as it is. -/
theorem ofSeconds?_eq_some {x y : Double} {seconds micros : Int} {d : Duration} (hx : x.toInt? = some seconds)
    (hy : Double.mul (Double.ofInt perSecond) x.fraction = y) (hmicros : y.toInt? = some micros)
    (hround : roundFrom (seconds * perSecond + micros) y.fraction = d.microseconds)
    (hd : d.isRepresentable = true) : ofSeconds? x = some d := by
  subst hy
  simp [ofSeconds?, hx, hmicros, hround, hd]

/-- A whole number of seconds is turned into a span without loss. -/
theorem ofSeconds?_whole (hlt : n < 86400000000000) : ofSeconds? (whole n) = some (ofWhole n) := by
  have hsmall : n < 2 ^ 53 := by omega
  have hscaled : Double.mul (Double.ofInt perSecond) (whole n).fraction = whole 0 := by
    rw [Double.fraction_whole hsmall]
    exact Double.ofScaled_zero false _
  have hzero : Double.zero = .finite false 0 (-(1073 + 1 : Nat)) := rfl
  have hround : roundFrom (n * perSecond + 0) (whole 0).fraction = n * perSecond := by
    rw [Double.fraction_whole (by decide), hzero, roundFrom_finite_zero, Int.add_zero]
  exact ofSeconds?_eq_some (Double.toInt?_whole hsmall) hscaled (Double.toInt?_whole (by decide)) hround
    (ofWhole_isRepresentable hlt)

end Duration

end JournalHerald

/-!
# Double-precision numbers

The numbers of the IEEE 754 binary64 format, represented by their mantissa and exponent, with every
operation computed exactly and then rounded once to the nearest number, ties to the even mantissa.

* `Double` is the type, with the normal form described at `finite`;
* `Double.ofRatio` rounds a quotient of natural numbers;
* `Double.add`, `Double.sub`, `Double.mul` and `Double.split` are the arithmetic that durations need;
* `Double.toInt?` drops the fractional part.
-/

namespace JournalHerald

/-- A binary64 number. -/
inductive Double where
  /-- No number at all. -/
  | nan
  /-- A magnitude past the largest finite one. -/
  | infinite (negative : Bool)
  /-- The number `mantissa * 2 ^ exponent`, with a sign that also tells the two zeros apart. The numbers
  built here are in normal form: the mantissa is below `2 ^ 53`, the exponent is at least `-1074`, and the
  mantissa reaches `2 ^ 52` unless the exponent is `-1074`. -/
  | finite (negative : Bool) (mantissa : Nat) (exponent : Int)
  deriving DecidableEq, Repr, Inhabited

namespace Double

/-- The least exponent of a finite number. -/
def minExponent : Int := -1074

/-- The greatest exponent of a finite number. -/
def maxExponent : Int := 971

/-- The quotient of two natural numbers, rounded to the nearest, a tie to the even neighbour. -/
def divNearest (n d : Nat) : Nat :=
  let q := n / d
  let r := n % d
  if d < 2 * r ∨ (2 * r = d ∧ q % 2 = 1) then q + 1 else q

/-- The quotient `n / d * 2 ^ (-e)` as a pair of natural numbers. -/
def scaled (n d : Nat) (e : Int) : Nat × Nat :=
  if 0 ≤ e then (n, d * Nat.pow 2 e.toNat) else (n * Nat.pow 2 (-e).toNat, d)

/-- The greatest `l` with `2 ^ l ≤ n / d`, for positive `n` and `d`. -/
def floorLog2 (n d : Nat) : Int :=
  let l : Int := (n.log2 : Int) - d.log2
  let (a, b) := scaled n d l
  if b ≤ a then l else l - 1

/-- The number nearest to `± n / d`, for positive `d`. -/
def ofRatio (negative : Bool) (n d : Nat) : Double :=
  if n = 0 then finite negative 0 minExponent
  else
    let e := max (floorLog2 n d - 52) minExponent
    let (a, b) := scaled n d e
    let m := divNearest a b
    let (m, e) := if m = Nat.pow 2 53 then (Nat.pow 2 52, e + 1) else (m, e)
    if maxExponent < e then infinite negative else finite negative m e

/-- The number nearest to `± n * 2 ^ e`. -/
def ofScaled (negative : Bool) (n : Nat) (e : Int) : Double :=
  if 0 ≤ e then ofRatio negative (n * Nat.pow 2 e.toNat) 1
  else ofRatio negative n (Nat.pow 2 (-e).toNat)

/-- The number nearest to a whole number. -/
def ofInt (i : Int) : Double :=
  ofRatio (decide (i < 0)) i.natAbs 1

/-- Positive zero. -/
def zero : Double := finite false 0 minExponent

/-- The number nearest to `± n * 10 ^ e`, where far too large and far too small magnitudes are settled
without computing the power. -/
def ofDecimal (negative : Bool) (n : Nat) (e : Int) : Double :=
  let digits : Int := (Nat.toDigits 10 n).length
  if n = 0 then finite negative 0 minExponent
  else if 400 < digits + e then infinite negative
  else if digits + e < -400 then finite negative 0 minExponent
  else if 0 ≤ e then ofRatio negative (n * Nat.pow 10 e.toNat) 1
  else ofRatio negative n (Nat.pow 10 (-e).toNat)

/-- The opposite number. -/
def neg : Double → Double
  | nan => nan
  | infinite s => infinite (!s)
  | finite s m e => finite (!s) m e

/-- A signed mantissa. -/
def signed (negative : Bool) (m : Nat) : Int :=
  if negative then -(m : Int) else m

/-- The sum. Two numbers that cancel out give positive zero, two negative zeros a negative one. -/
def add : Double → Double → Double
  | nan, _ | _, nan => nan
  | infinite s, infinite t => if s = t then infinite s else nan
  | infinite s, finite .. => infinite s
  | finite .., infinite t => infinite t
  | finite s m e, finite t n f =>
    let g := min e f
    let sum := signed s (m * Nat.pow 2 (e - g).toNat) + signed t (n * Nat.pow 2 (f - g).toNat)
    if sum = 0 then finite (s && t) 0 minExponent
    else ofScaled (decide (sum < 0)) sum.natAbs g

/-- The difference. -/
def sub (x y : Double) : Double := add x (neg y)

/-- The product. -/
def mul : Double → Double → Double
  | nan, _ | _, nan => nan
  | infinite s, infinite t => infinite (s != t)
  | infinite s, finite t n _ => if n = 0 then nan else infinite (s != t)
  | finite s m _, infinite t => if m = 0 then nan else infinite (s != t)
  | finite s m e, finite t n f => ofScaled (s != t) (m * n) (e + f)

/-- The whole number left when the fractional part of a finite number is dropped. -/
def toInt? : Double → Option Int
  | nan | infinite _ => none
  | finite s m e =>
    some (signed s (if 0 ≤ e then m * Nat.pow 2 e.toNat else m / Nat.pow 2 (-e).toNat))

/-- The fractional part of a finite number, with the sign of the number. -/
def fraction : Double → Double
  | nan => nan
  | infinite s => finite s 0 minExponent
  | finite s m e => if 0 ≤ e then finite s 0 minExponent else ofScaled s (m % Nat.pow 2 (-e).toNat) e

/-- The number is finite and has no fractional part. -/
def isWhole : Double → Bool
  | nan | infinite _ => false
  | finite _ m e => 0 ≤ e || m % Nat.pow 2 (-e).toNat == 0

/-- The number is below zero. -/
def isNegative : Double → Bool
  | nan => false
  | infinite s => s
  | finite s m _ => s && m != 0

/-- The number is a zero of either sign. -/
def isZero : Double → Bool
  | finite _ m _ => m == 0
  | _ => false

/-- The number itself, or positive zero if it is below zero. -/
def atLeastZero (x : Double) : Double :=
  if isNegative x then zero else x

/-- Equality of numbers: the two zeros are equal and `nan` is equal to nothing. -/
def equals : Double → Double → Bool
  | nan, _ | _, nan => false
  | infinite s, infinite t => s == t
  | finite s m e, finite t n f => (m == 0 && n == 0) || (s == t && m == n && e == f)
  | _, _ => false

/-- Equality with a whole number. -/
def equalsInt (x : Double) (i : Int) : Bool :=
  x.isWhole && x.toInt? == some i

end Double

end JournalHerald

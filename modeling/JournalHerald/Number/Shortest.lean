import JournalHerald.Number.Double
import JournalHerald.Text.Blank
import JournalHerald.Text.Digits

/-!
# The shortest decimal form of a double-precision number

Among all decimals that round to a given number, the one with the fewest digits is written, and among
those the nearest.

* `Shortest.decimal` finds the digits and the place of the decimal point: on the grid of one, two, three
  digits and so on, it tests the two neighbours of the number in exact arithmetic;
* `Double.text` lays them out: positional for points from `-3` to `16`, else with an exponent of at least
  two digits.
-/

namespace JournalHerald

namespace Shortest

/-- The greatest `l` with `10 ^ l ≤ n / d`, for positive `n` and `d`. -/
def floorLog10 (n d : Nat) : Int :=
  let l : Int := ((Nat.toDigits 10 n).length : Int) - (Nat.toDigits 10 d).length
  let (a, b) := if 0 ≤ l then (n, d * Nat.pow 10 l.toNat) else (n * Nat.pow 10 (-l).toNat, d)
  if b ≤ a then l else l - 1

/-- The interval of the reals that round to `mantissa * 2 ^ exponent`, in units of
`2 ^ (exponent - 2)`: its two ends and whether they belong to it. -/
def interval (mantissa : Nat) (exponent : Int) : Nat × Nat × Bool :=
  let below := if mantissa = Nat.pow 2 52 ∧ Double.minExponent < exponent then 1 else 2
  (4 * mantissa - below, 4 * mantissa + 2, mantissa % 2 = 0)

/-- Try the grid of `digits` significant digits. The number is `n / d`, the interval has the ends
`lo / d` and `hi / d`, and `top` is the place of the first digit. -/
def onGrid? (n d lo hi : Nat) (closed : Bool) (top : Int) (digits : Nat) : Option (Nat × Int) :=
  let place : Int := top + 1 - digits
  let up := Nat.pow 10 place.toNat
  let down := Nat.pow 10 (-place).toNat
  -- a grid point `k` stands for `k * up / down`
  let k := n * down / (d * up)
  let fits (k : Nat) : Bool :=
    let point := k * up * d
    if closed then lo * down ≤ point && point ≤ hi * down
    else lo * down < point && point < hi * down
  let below := n * down - k * up * d
  let above := (k + 1) * up * d - n * down
  let downwards := below < above || (below == above && k % 2 == 0)
  match fits k, fits (k + 1) with
  | true, true => some (if downwards then k else k + 1, place)
  | true, false => some (k, place)
  | false, true => some (k + 1, place)
  | false, false => none

/-- The shortest decimal `digits * 10 ^ place` that rounds to the positive number
`mantissa * 2 ^ exponent`. Seventeen digits are always enough. -/
def decimal (mantissa : Nat) (exponent : Int) : Nat × Int :=
  let (lo, hi, closed) := interval mantissa exponent
  let e := exponent - 2
  let up := Nat.pow 2 e.toNat
  let d := Nat.pow 2 (-e).toNat
  let n := 4 * mantissa * up
  let top := floorLog10 n d
  ((List.range 17).findSome? fun i => onGrid? n d (lo * up) (hi * up) closed top (i + 1)).getD
    (n / d, 0)

/-- The digits without the zeros at their end, and the place of the decimal point counted from the
first digit. -/
def digitsAndPoint (mantissa : Nat) (exponent : Int) : Text × Int :=
  let (k, place) := decimal mantissa exponent
  let ds := Text.natText k
  (Text.dropWhileEnd (· = .char '0') ds, ds.length + place)

/-- Lay out digits positionally if the decimal point falls at most 16 digits behind and at most three
zeros before the first digit, else with an exponent. -/
def layout (digits : Text) (point : Int) : Text :=
  let count : Int := digits.length
  let zeros (n : Int) : Text := List.replicate n.toNat '0'
  if -4 < point ∧ point ≤ 16 then
    if point ≤ 0 then "0." ++ zeros (-point) ++ digits
    else if count ≤ point then digits ++ zeros (point - count) ++ ".0"
    else digits.take point.toNat ++ "." ++ digits.drop point.toNat
  else
    let e := point - 1
    let tail : Text := if count ≤ 1 then [] else "." ++ digits.drop 1
    let mark : Text := if e < 0 then "e-" else "e+"
    digits.take 1 ++ tail ++ mark ++ Text.zeroPadded 2 e.natAbs

end Shortest

/-- The shortest decimal text that reads back as the number. -/
def Double.text : Double → Text
  | .nan => "nan"
  | .infinite negative => if negative then "-inf" else "inf"
  | .finite negative mantissa exponent =>
    let sign : Text := if negative then "-" else ""
    let (digits, point) : Text × Int :=
      if mantissa = 0 then ("0", 1) else Shortest.digitsAndPoint mantissa exponent
    sign ++ Shortest.layout digits point

end JournalHerald

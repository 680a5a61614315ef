import SchemaMill.Decimal.Double
import SchemaMill.Text.Numeral

/-!
# The shortest decimals that read back

A number is written with the fewest digits that still read back as the same number. The reals that
round to a number form an interval, which holds its ends if the significand is even. On the grids of
one, two and more digits the two neighbours of the number are tried; the first grid with a neighbour
in the interval wins, of two such neighbours the nearer, at the same distance the even one.
-/

namespace SchemaMill

namespace Double

/-- Digits times a power of ten. -/
structure Scaled where
  /-- The digits as one number. -/
  digits : Nat
  /-- The power of ten. -/
  exponent : Int
  deriving DecidableEq, Repr

/-- Compares `a * 10 ^ i` with `n * 2 ^ j`. -/
def compareScaled (a : Nat) (i : Int) (n : Nat) (j : Int) : Ordering :=
  compare (a * tenPow i * twoPow (-j)) (n * twoPow j * tenPow (-i))

/-- Whether a decimal rounds to a finite number. Below a power of two the interval is half as wide,
except at the smallest power. -/
def readsBack (significand : Nat) (exponent : Int) (d : Scaled) : Bool :=
  let below := if significand == twoPow 52 && -1074 < exponent then 4 * significand - 1
    else 4 * significand - 2
  let low := compareScaled d.digits d.exponent below (exponent - 2)
  let high := compareScaled d.digits d.exponent (4 * significand + 2) (exponent - 2)
  let closed := significand % 2 == 0
  (low == .gt || (closed && low == .eq)) && (high == .lt || (closed && high == .eq))

/-- The power of ten of the leading digit of a number other than zero. -/
def leadingPower (significand : Nat) (exponent : Int) : Int :=
  let estimate : Int := (decimalLength (significand * twoPow exponent) : Int) -
    decimalLength (twoPow (-exponent))
  if compareScaled 1 estimate significand exponent == .gt then estimate - 1 else estimate

/-- The neighbour of a number on the grid of so many digits that reads back, if there is one. -/
def onGrid? (significand : Nat) (exponent power : Int) (count : Nat) : Option Scaled :=
  let unit := power - count + 1
  let num := significand * twoPow exponent * tenPow (-unit)
  let den := twoPow (-exponent) * tenPow unit
  let lower : Scaled := ⟨num / den, unit⟩
  let upper : Scaled := ⟨num / den + 1, unit⟩
  let nearest : Scaled := ⟨roundHalfEven num den, unit⟩
  let reads := readsBack significand exponent
  if reads lower && reads upper then some nearest
  else if reads lower then some lower
  else if reads upper then some upper
  else none

/-- The exact decimal value of a number. -/
def exactly (significand : Nat) (exponent : Int) : Scaled :=
  ⟨significand * twoPow exponent * Nat.pow 5 (-exponent).toNat, min exponent 0⟩

/-- The shortest decimal that reads back as a number other than zero. -/
def shortest (significand : Nat) (exponent : Int) : Scaled :=
  let power := leadingPower significand exponent
  (((List.range 17).map (· + 1)).findSome? (onGrid? significand exponent power)).getD
    (exactly significand exponent)

/-- How a decimal is laid out. -/
structure NumberLayout where
  /-- The least power of ten of a leading digit that is written by its position. -/
  positionalFrom : Int
  /-- The least power of ten of a leading digit that is written as a power again. -/
  positionalBelow : Int
  /-- The least number of digits of a power of ten. -/
  powerWidth : Nat

/-- Numbers are written by position from a ten-thousandth up to sixteen digits, otherwise with the
power of ten in two digits or more. -/
def plainLayout : NumberLayout := ⟨-4, 16, 2⟩

/-- Digits laid out with a point after the leading power of ten. -/
def layOut (l : NumberLayout) (digits : Text) (power : Int) : Text :=
  if l.positionalFrom ≤ power && power < l.positionalBelow then
    if power < 0 then "0.".toList ++ List.replicate ((-power).toNat - 1) '0' ++ digits
    else
      let whole := power.toNat + 1
      if digits.length ≤ whole then
        digits ++ List.replicate (whole - digits.length) '0' ++ ".0".toList
      else digits.take whole ++ '.' :: digits.drop whole
  else
    let mantissa := match digits with
      | d :: e :: rest => d :: '.' :: e :: rest
      | ds => ds
    mantissa ++ ['e', if power < 0 then '-' else '+'] ++ decimalPadded l.powerWidth power.natAbs

/-- The text of a number. -/
def text : Double → Text
  | nan => "nan"
  | infinite negative => if negative then "-inf" else "inf"
  | finite negative significand exponent =>
    let size :=
      if significand == 0 then "0.0".toList
      else
        let d := shortest significand exponent
        let all := decimal d.digits
        let digits := (all.reverse.dropWhile (· == '0')).reverse
        layOut plainLayout digits (d.exponent + all.length - 1)
    if negative then '-' :: size else size

end Double

end SchemaMill

/-!
# Numbers in double precision

A number in binary floating point is a sign, a significand below 2^53 and a power of two from -1074
to 971. Everything is computed exactly in whole numbers and rounded once, to the nearest number and,
of two that are equally near, to the one with the even significand.
-/

namespace SchemaMill

/-- The quotient of two numbers rounded to the nearest whole number, a half to the even one. -/
def roundHalfEven (num den : Nat) : Nat :=
  let quotient := num / den
  let twice := 2 * (num % den)
  if twice < den || (twice == den && quotient % 2 == 0) then quotient else quotient + 1

/-- Two to a power, or one for a power below zero. -/
def twoPow (power : Int) : Nat := Nat.pow 2 power.toNat

/-- Ten to a power, or one for a power below zero. -/
def tenPow (power : Int) : Nat := Nat.pow 10 power.toNat

/-- A number in double precision. -/
inductive Double where
  /-- The significand times a power of two, negated or not. -/
  | finite (negative : Bool) (significand : Nat) (exponent : Int)
  /-- Larger than every finite number. -/
  | infinite (negative : Bool)
  /-- No number. -/
  | nan
  deriving DecidableEq, Repr

namespace Double

/-- Zero. -/
def zero (negative : Bool) : Double := finite negative 0 (-1074)

/-- Compares a fraction with a power of two: whether `2 ^ e ≤ num / den`. -/
def powLe (e : Int) (num den : Nat) : Bool := den * twoPow e ≤ num * twoPow (-e)

/-- The number nearest to a fraction. -/
def ofRatio (negative : Bool) (num den : Nat) : Double :=
  if num == 0 then zero negative
  else
    let estimate : Int := (num.log2 : Int) - den.log2
    let size := if powLe estimate num den then estimate else estimate - 1
    let exponent := max (size - 52) (-1074)
    let significand := roundHalfEven (num * twoPow (-exponent)) (den * twoPow exponent)
    let (significand, exponent) :=
      if significand == twoPow 53 then (twoPow 52, exponent + 1) else (significand, exponent)
    if 971 < exponent then infinite negative else finite negative significand exponent

/-- The number of decimal digits of a number. -/
def decimalLength (n : Nat) : Nat := (Nat.toDigits 10 n).length

/-- The number nearest to `digits * 10 ^ exponent`. Numbers of more than 400 places before or after
the point are out of reach either way. -/
def ofDecimal (negative : Bool) (digits : Nat) (exponent : Int) : Double :=
  if digits == 0 then zero negative
  else
    let places := exponent + decimalLength digits
    if 400 < places then infinite negative
    else if places < -400 then zero negative
    else ofRatio negative (digits * tenPow exponent) (tenPow (-exponent))

/-- The number nearest to an integer. -/
def ofInt (n : Int) : Double := ofDecimal (n < 0) n.natAbs 0

/-- Whether a number is finite. -/
def isFinite : Double → Bool
  | finite .. => true
  | _ => false

/-- Whether a number is finite and has no fraction. -/
def isIntegral : Double → Bool
  | finite _ significand exponent => significand % twoPow (-exponent) == 0
  | _ => false

/-- The whole part of a finite number. -/
def truncate : Double → Int
  | finite negative significand exponent =>
    let size : Int := (significand * twoPow exponent / twoPow (-exponent) : Nat)
    if negative then -size else size
  | _ => 0

end Double

end SchemaMill

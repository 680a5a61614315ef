import SchemaMill.Decimal.Double

/-!
# Sums and differences in double precision

Two finite numbers are brought to the same power of two, where they are integers; the sum is
computed exactly and rounded once.
-/

namespace SchemaMill.Double

/-- The integer that a significand with a sign is, at a power of two that is not above its own. -/
def scaled (negative : Bool) (significand : Nat) (exponent unit : Int) : Int :=
  let size : Int := (significand * twoPow (exponent - unit) : Nat)
  if negative then -size else size

/-- The number nearest to an integer times a power of two. -/
def ofScaled (n : Int) (unit : Int) : Double :=
  ofRatio (n < 0) (n.natAbs * twoPow unit) (twoPow (-unit))

/-- The number with the other sign. -/
def negate : Double → Double
  | finite negative significand exponent => finite (!negative) significand exponent
  | infinite negative => infinite (!negative)
  | nan => nan

/-- The sum of two numbers. The sum of two zeros is negative if both are. -/
def add : Double → Double → Double
  | nan, _ => nan
  | _, nan => nan
  | infinite a, infinite b => if a = b then infinite a else nan
  | infinite a, _ => infinite a
  | _, infinite b => infinite b
  | finite a m d, finite b n e =>
    let unit := min d e
    let sum := scaled a m d unit + scaled b n e unit
    if sum = 0 then zero (a && b) else ofScaled sum unit

instance : Add Double := ⟨add⟩

instance : Sub Double := ⟨fun a b => add a (negate b)⟩

/-- Whether a number is at most another; nothing is said about what is no number. -/
def le : Double → Double → Bool
  | nan, _ => false
  | _, nan => false
  | infinite a, infinite b => a || !b
  | infinite a, finite .. => a
  | finite .., infinite b => !b
  | finite a m d, finite b n e =>
    let unit := min d e
    scaled a m d unit ≤ scaled b n e unit

instance : LE Double := ⟨fun a b => le a b = true⟩

instance (a b : Double) : Decidable (a ≤ b) := inferInstanceAs (Decidable (le a b = true))

end SchemaMill.Double

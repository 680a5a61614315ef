import SchemaMill.Charset.Bytes
import SchemaMill.Text.Numeral

/-!
# UTF-16 and UTF-32

Code units of two or four bytes in either order. In UTF-16 the code points above FFFF are pairs of
units in the range of the surrogates.
-/

namespace SchemaMill.Charset

namespace Utf16

/-- The bytes of a code unit. -/
def unitBytes (o : ByteOrder) (unit : Nat) : Bytes :=
  o.arrange [UInt8.ofNat unit, UInt8.ofNat (unit / 256)]

/-- The code unit that two bytes make. -/
def unit (o : ByteOrder) (a b : UInt8) : Nat := unitValue (o.arrange [a, b])

/-- Whether a unit is the first half of a pair. -/
def isHigh (unit : Nat) : Bool := 0xD800 ≤ unit && unit < 0xDC00

/-- Whether a unit is the second half of a pair. -/
def isLow (unit : Nat) : Bool := 0xDC00 ≤ unit && unit < 0xE000

/-- The code point of a pair. -/
def joined (high low : Nat) : Nat := 0x10000 + (high - 0xD800) * 1024 + (low - 0xDC00)

/-- Reads one character. -/
def readChar (o : ByteOrder) : CharReader
  | _, [] => .error .truncated
  | a, b :: rest =>
    let first := unit o a b
    if isHigh first then
      match rest with
      | c :: d :: _ =>
        let second := unit o c d
        if isLow second then
          .ok (Char.ofNat (joined first second), 3)
        else .error .illegalSurrogate
      | _ => .error .unexpectedEnd
    else if isLow first then .error .illegalUnit
    else .ok (Char.ofNat first, 1)

/-- The code units of a character. -/
def charUnits (c : Char) : List Nat :=
  let code := c.toNat
  if code < 0x10000 then [code]
  else
    let above := code - 0x10000
    [0xD800 + above / 1024, 0xDC00 + above % 1024]

/-- The bytes of a character. -/
def charBytes (o : ByteOrder) (c : Char) : Bytes := (charUnits c).flatMap (unitBytes o)

/-- The text of code units; half a pair on its own is replaced. -/
def unitsText : List Nat → Text
  | [] => []
  | [a] => [codePoint a]
  | a :: b :: rest =>
    if isHigh a && isLow b then Char.ofNat (joined a b) :: unitsText rest
    else codePoint a :: unitsText (b :: rest)

/-- The byte order mark. -/
def mark (o : ByteOrder) : Bytes := unitBytes o 0xFEFF

end Utf16

namespace Utf32

/-- The bytes of a code unit. -/
def unitBytes (o : ByteOrder) (unit : Nat) : Bytes :=
  o.arrange [UInt8.ofNat unit, UInt8.ofNat (unit / 256), UInt8.ofNat (unit / 65536),
    UInt8.ofNat (unit / 16777216)]

/-- Reads one character. -/
def readChar (o : ByteOrder) : CharReader
  | a, b :: c :: d :: _ =>
    let code := unitValue (o.arrange [a, b, c, d])
    if 0x110000 ≤ code then .error .outOfRange
    else if 0xD800 ≤ code ∧ code < 0xE000 then .error .surrogate
    else .ok (Char.ofNat code, 3)
  | _, _ => .error .truncated

/-- The bytes of a character. -/
def charBytes (o : ByteOrder) (c : Char) : Bytes := unitBytes o c.toNat

/-- The byte order mark. -/
def mark (o : ByteOrder) : Bytes := unitBytes o 0xFEFF

end Utf32

end SchemaMill.Charset

import SchemaMill.Charset.Bytes
import SchemaMill.Text.Numeral

/-!
# Punycode

Text as its characters of ASCII, a hyphen, and digits of base 36 that tell which other characters
stand where among them. The characters are told in the order of their code points; a number says how
many places for a character, and rounds through all of them for a higher code point, lie before the
next one. How many digits a number takes depends on a bias that follows the numbers before.
-/

namespace SchemaMill.Charset.Punycode

/-- The digits, in the order of their values. -/
def digits : Text := "abcdefghijklmnopqrstuvwxyz0123456789".toList

/-- The value of a digit, in small letters or capitals. -/
def digitValue? (b : UInt8) : Option Nat := digits.idxOf? (byteChar b).toLower

theorem digitValue?_getD_digits {n : Nat} (h : n < 36) :
    digitValue? (UInt8.ofNat (digits.getD n 'a').toNat) = some n := by
  have hall : ∀ n < 36, digitValue? (UInt8.ofNat (digits.getD n 'a').toNat) = some n := by decide
  exact hall n h

/-- The least value of a digit in a place with which a number goes on. -/
def threshold (bias place : Nat) : Nat := max 1 (min 26 (36 * (place + 1) - bias))

theorem threshold_pos (bias place : Nat) : 0 < threshold bias place := by
  simp only [threshold]; omega

/-- The digits of a number from some place on. -/
def numberDigits (bias place n : Nat) : Text :=
  let t := threshold bias place
  if n < t then [digits.getD n 'a']
  else
    digits.getD (t + (n - t) % (36 - t)) 'a' ::
      numberDigits bias (place + 1) ((n - t) / (36 - t))
termination_by n
decreasing_by
  have := threshold_pos bias place
  exact Nat.lt_of_le_of_lt (Nat.div_le_self _ _) (by omega)

/-- The bias of a reduced number after `steps`. -/
def biasOf (steps n : Nat) : Nat :=
  if 455 < n then biasOf (steps + 36) (n / 35) else steps + 36 * n / (n + 38)
termination_by n
decreasing_by exact Nat.div_lt_self (by omega) (by omega)

/-- The bias after a number, the first one or a later one, that has led to `count` characters. -/
def adapt (first : Bool) (n count : Nat) : Nat :=
  let reduced := if first then n / 700 else n / 2
  biasOf 0 (reduced + reduced / count)

/-- The bias before the first number. -/
def startBias : Nat := 72

/-- The lowest code point that is told by numbers. -/
def startCode : Nat := 0x80

/-! ### Writing -/

/-- What is known between two numbers. -/
structure Writer where
  /-- What the next number has counted so far. -/
  count : Nat := 0
  /-- The bias of the next number. -/
  bias : Nat := startBias
  /-- The number of characters that are told. -/
  told : Nat
  /-- Whether no number is written. -/
  first : Bool := true
  /-- The digits that are written. -/
  output : Text := []

/-- Passes a character on the way to those with code point `code`. -/
def Writer.pass (code : Nat) (w : Writer) (c : Char) : Writer :=
  if c.toNat < code then { w with count := w.count + 1 }
  else if c.toNat = code then
    { count := 0, bias := adapt w.first w.count (w.told + 1), told := w.told + 1, first := false,
      output := w.output ++ numberDigits w.bias 0 w.count }
  else w

/-- Tells the characters of a text with each of some ascending code points, from a code point on. -/
def Writer.tell (t : Text) (w : Writer) (next : Nat) : List Nat → Writer
  | [] => w
  | code :: codes =>
    let w := { w with count := w.count + (code - next) * (w.told + 1) }
    let w := t.foldl (Writer.pass code) w
    Writer.tell t { w with count := w.count + 1 } (code + 1) codes

/-- Adds a number to ascending numbers, unless it is one of them. -/
def insertCode (n : Nat) : List Nat → List Nat
  | [] => [n]
  | m :: rest =>
    if n < m then n :: m :: rest else if n = m then m :: rest else m :: insertCode n rest

/-- The code points above ASCII in a text, in ascending order. -/
def codesAbove (t : Text) : List Nat :=
  ((t.map Char.toNat).filter fun n => decide (startCode ≤ n)).foldr insertCode []

/-- A text as it is written. -/
def written (t : Text) : Text :=
  let basic := t.filter fun c => decide (c.toNat < startCode)
  let numbers := (Writer.tell t { told := basic.length } startCode (codesAbove t)).output
  if basic.isEmpty then numbers else basic ++ '-' :: numbers

/-- The bytes of a text. -/
def encode (t : Text) : Bytes := Ascii.encode (written t)

/-! ### Reading -/

/-- What is known between two digits. -/
structure Reader where
  text : Text
  /-- The code point of the last character that was told. -/
  code : Nat := startCode
  /-- The first place where the next character can stand. -/
  place : Nat := 0
  bias : Nat := startBias
  /-- Whether no number is complete. -/
  first : Bool := true
  /-- The value of the digits of the number so far. -/
  value : Nat := 0
  /-- The weight of its next digit. -/
  weight : Nat := 1
  /-- The number of its digits. -/
  length : Nat := 0

/-- Inserts the character that a complete number tells, unless it is above all code points. -/
def Reader.insert? (r : Reader) (n : Nat) : Option Reader :=
  let places := r.text.length + 1
  let code := r.code + (r.place + n) / places
  let place := (r.place + n) % places
  if code < 0x110000 then
    some { text := r.text.take place ++ codePoint code :: r.text.drop place
           code, place := place + 1, bias := adapt r.first n places, first := false }
  else none

/-- Reads a digit. -/
def Reader.step? (r : Reader) (b : UInt8) : Option Reader := do
  let digit ← digitValue? b
  let n := r.value + digit * r.weight
  let t := threshold r.bias r.length
  if digit < t then r.insert? n
  else some { r with value := n, weight := r.weight * (36 - t), length := r.length + 1 }

/-- The text that some digits make of the characters of ASCII. -/
def insertAll? (basic : Text) (numbers : Bytes) : Option Text := do
  let r ← numbers.foldlM Reader.step? { text := basic }
  if r.length = 0 then some r.text else none

/-- What stands before and after the last hyphen; if there is none, all of it is after. -/
def splitLast (data : Bytes) : Bytes × Bytes :=
  let numbers := (data.reverse.takeWhile (· != 0x2D)).reverse
  (data.take (data.length - numbers.length - 1), numbers)

/-- The text of bytes; nothing if the digits tell no characters. -/
def decode (data : Bytes) : Except DecodeError (Option Text) := do
  let (basic, numbers) := splitLast data
  let basic ← Ascii.decode basic
  let _ ← Ascii.decode numbers
  .ok (insertAll? basic numbers)

end SchemaMill.Charset.Punycode

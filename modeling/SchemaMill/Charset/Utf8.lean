import SchemaMill.Charset.Bytes

/-!
# UTF-8

A code point takes one to four bytes. The first byte tells their number, and its range and that of
the second keep every code point to its shortest form and the surrogates out.
-/

namespace SchemaMill.Charset.Utf8

/-- The value of a character whose first byte gave `value`, with `count` bytes to come. The next of
them lies between `low` and `high`, and those after it between 80 and BF. -/
def readRest : (count low high value : Nat) → Bytes → Except Fault Nat
  | 0, _, _, value, _ => .ok value
  | _ + 1, _, _, _, [] => .error .unexpectedEnd
  | count + 1, low, high, value, b :: rest =>
    if low ≤ b.toNat ∧ b.toNat ≤ high then
      readRest count 0x80 0xBF (value * 64 + (b.toNat - 0x80)) rest
    else .error .invalidContinuation

/-- Reads one character. -/
def readChar : CharReader := fun b rest =>
  let n := b.toNat
  let read (count low high value : Nat) : Except Fault (Char × Nat) :=
    (readRest count low high value rest).map fun code => (Char.ofNat code, count)
  if n < 0x80 then .ok (Char.ofNat n, 0)
  else if n < 0xC2 then .error .invalidStart
  else if n < 0xE0 then read 1 0x80 0xBF (n - 0xC0)
  else if n < 0xF0 then
    read 2 (if n = 0xE0 then 0xA0 else 0x80) (if n = 0xED then 0x9F else 0xBF) (n - 0xE0)
  else if n < 0xF5 then
    read 3 (if n = 0xF0 then 0x90 else 0x80) (if n = 0xF4 then 0x8F else 0xBF) (n - 0xF0)
  else .error .invalidStart

/-- The byte order mark. -/
def mark : Bytes := [0xEF, 0xBB, 0xBF]

/-- The bytes after a byte order mark, if one is there. -/
def dropMark : Bytes → Bytes
  | 0xEF :: 0xBB :: 0xBF :: rest => rest
  | data => data

/-- The text of bytes. -/
def decode (data : Bytes) : Except DecodeError Text := decodeWith readChar data

/-- The bytes of a text. -/
def encode (t : Text) : Bytes := t.flatMap String.utf8EncodeChar

end SchemaMill.Charset.Utf8

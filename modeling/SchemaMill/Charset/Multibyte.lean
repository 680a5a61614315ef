import SchemaMill.Charset.Bytes

/-!
# Multibyte encodings of East Asia

Bytes above ASCII begin sequences of several bytes. Known are the characters of ASCII, the
half-width letters of Japan and, in the encoding that has all code points, those above FFFF; of all
other sequences only the lengths are known, and no character of them is read.
-/

namespace SchemaMill.Charset

/-- A multibyte encoding, as far as its known characters and the lengths of its sequences go. -/
inductive Multibyte where
  /-- Every byte above ASCII begins a sequence of two. -/
  | pairs
  /-- The same, except that one pair begins a sequence of eight that spells a Korean syllable. -/
  | eucKr
  /-- Sequences of two, and of four with a digit in the second place. -/
  | gb18030
  /-- Sequences of two, and of three after one byte. -/
  | eucJp
  /-- The same with a newer table. -/
  | eucJis
  /-- Sequences of two among the bytes of the half-width letters. -/
  | shiftJis
  /-- The same with characters for more of the single bytes. -/
  | cp932
  /-- The same with a newer table, where two signs of ASCII are not single bytes. -/
  | shiftJis2004
  deriving DecidableEq, Repr

namespace Multibyte

/-- The half-width letter of Japan that a byte stands for. -/
def halfWidth? (b : UInt8) : Option Char :=
  if 0xA1 ≤ b && b ≤ 0xDF then some (Char.ofNat (0xFEC0 + b.toNat)) else none

/-- The character that a byte stands for on its own. -/
def single? (m : Multibyte) (b : UInt8) : Option Char :=
  if b < 0x80 then
    if m = shiftJis2004 && b == 0x5C then some '¥'
    else if m = shiftJis2004 && b == 0x7E then some '‾'
    else some (byteChar b)
  else
    match m with
    | shiftJis | shiftJis2004 => halfWidth? b
    | cp932 =>
      if b = 0x80 then some '\u0080'
      else if b = 0xA0 then some '\uF8F0'
      else if 0xFD ≤ b then some (Char.ofNat (0xF7F4 + b.toNat))
      else halfWidth? b
    | _ => none

/-- The number of bytes of a sequence that begins with a byte above ASCII and the one after it; 1 if
no sequence begins with it. -/
def length (m : Multibyte) (b : UInt8) (next : Option UInt8) : Nat :=
  match m with
  | pairs => 2
  | eucKr => if b = 0xA4 && next == some 0xD4 then 8 else 2
  | gb18030 => if next.any fun n => 0x30 ≤ n && n ≤ 0x39 then 4 else 2
  | eucJp | eucJis => if b = 0x8F then 3 else 2
  | shiftJis => if (0x81 ≤ b && b ≤ 0x9F) || (0xE0 ≤ b && b ≤ 0xEA) then 2 else 1
  | cp932 | shiftJis2004 => if (0x81 ≤ b && b ≤ 0x9F) || (0xE0 ≤ b && b ≤ 0xFC) then 2 else 1

/-- The code point above FFFF of a sequence of four bytes. -/
def quadCode? (a b c d : UInt8) : Option Nat :=
  let isLetter (x : UInt8) : Bool := 0x81 ≤ x && x ≤ 0xFE
  let isNumber (x : UInt8) : Bool := 0x30 ≤ x && x ≤ 0x39
  if 0x90 ≤ a && isLetter a && isNumber b && isLetter c && isNumber d then
    let above := (((a.toNat - 0x90) * 10 + (b.toNat - 0x30)) * 126 + (c.toNat - 0x81)) * 10 +
      (d.toNat - 0x30)
    if above < 0x100000 then some (0x10000 + above) else none
  else none

/-- The four bytes of a code point above FFFF. -/
def quad (code : Nat) : Bytes :=
  let above := code - 0x10000
  [UInt8.ofNat (0x90 + above / 12600), UInt8.ofNat (0x30 + above / 1260 % 10),
    UInt8.ofNat (0x81 + above / 10 % 126), UInt8.ofNat (0x30 + above % 10)]

/-- The character of a sequence. -/
def sequence? (m : Multibyte) (bytes : Bytes) : Option Char :=
  match m, bytes with
  | gb18030, [a, b, c, d] => (quadCode? a b c d).map Char.ofNat
  | eucJp, [0x8E, b] | eucJis, [0x8E, b] => halfWidth? b
  | shiftJis2004, [0x81, 0x5F] => some '\\'
  | shiftJis2004, [0x81, 0xB0] => some '~'
  | _, _ => none

/-- Reads one character. -/
def readChar (m : Multibyte) : CharReader := fun b rest =>
  match m.single? b with
  | some c => .ok (c, 0)
  | none =>
    let further := m.length b rest.head? - 1
    if rest.length < further then .error .incompleteSequence
    else
      match m.sequence? (b :: rest.take further) with
      | some c => .ok (c, further)
      | none => .error .illegalSequence

/-- The byte of a yen sign or an overline where it takes the place of a sign of ASCII. -/
def yenByte? (m : Multibyte) (c : Char) : Option UInt8 :=
  if m = eucJp || m = shiftJis || m = shiftJis2004 then
    if c = '¥' then some 0x5C else if c = '‾' then some 0x7E else none
  else none

/-- The bytes of a character, if the encoding is known to have it. -/
def charBytes? (m : Multibyte) (c : Char) : Option Bytes :=
  match ((List.range 256).map UInt8.ofNat).find? fun b => m.single? b == some c with
  | some b => some [b]
  | none =>
    if m = shiftJis2004 && c == '\\' then some [0x81, 0x5F]
    else if m = shiftJis2004 && c == '~' then some [0x81, 0xB0]
    else if (m = eucJp || m = eucJis) && 0xFF61 ≤ c.toNat && c.toNat ≤ 0xFF9F then
      some [0x8E, UInt8.ofNat (c.toNat - 0xFEC0)]
    else if m = gb18030 && 0x10000 ≤ c.toNat then some (quad c.toNat)
    else (m.yenByte? c).map fun b => [b]

end Multibyte

end SchemaMill.Charset

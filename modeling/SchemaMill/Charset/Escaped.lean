import SchemaMill.Charset.Bytes
import SchemaMill.Text.Named
import SchemaMill.Text.Printable

/-!
# Escaped text

Text in bytes of which each is a code point below 256. A backslash begins an escape. The full form
has all escapes of text in programs, and the raw form only those of code points by four or eight
digits; any other backslash stands for itself.
-/

namespace SchemaMill.Charset.Escaped

/-- Reads the digits of an escape, with a fault for what is above all code points. -/
def readHex (e : HexEscape) (above : Fault) (rest : Bytes) : Except Fault (Chunk Unit) :=
  match readHex? e.width 0 ((rest.take e.width).map byteChar) with
  | none => .error (.truncatedEscape e)
  | some n => if n < 0x110000 then .ok ⟨[codePoint n], e.width + 1, ()⟩ else .error above

/-- The value of at most `width` octal digits after `value`, and their number. -/
def readOctal (value : Nat) : (width : Nat) → Bytes → Nat × Nat
  | 0, _ => (value, 0)
  | _ + 1, [] => (value, 0)
  | w + 1, b :: rest =>
    if 0x30 ≤ b && b ≤ 0x37 then
      let (n, count) := readOctal (8 * value + (b.toNat - 0x30)) w rest
      (n, count + 1)
    else (value, 0)

/-- Reads a name in braces. -/
def readName (rest : Bytes) : Except Fault (Chunk Unit) :=
  match rest.map byteChar with
  | '\x7b' :: t =>
    let name := t.takeWhile (· != '\x7d')
    if name.isEmpty || name.length = t.length then .error .malformedName
    else
      match namedChar? name with
      | some c => .ok ⟨[c], name.length + 3, ()⟩
      | none => .error .unknownName
  | _ => .error .malformedName

/-- Letters after a backslash, and the characters that they stand for. -/
def letters : List (Char × Text) :=
  [('\n', []), ('\\', ['\\']), ('\'', ['\'']), ('"', ['"']), ('a', ['\x07']), ('b', ['\x08']),
    ('t', ['\t']), ('n', ['\n']), ('v', ['\x0b']), ('f', ['\x0c']), ('r', ['\r'])]

/-- Reads what follows a backslash in the full form. -/
def readEscape : Bytes → Except Fault (Chunk Unit)
  | [] => .error .endingBackslash
  | b :: rest =>
    let c := byteChar b
    match letters.lookup c with
    | some t => .ok ⟨t, 1, ()⟩
    | none =>
      if c = 'x' then readHex .byte .escapeAbove rest
      else if c = 'u' then readHex .short .escapeAbove rest
      else if c = 'U' then readHex .long .escapeAbove rest
      else if c = 'N' then readName rest
      else if '0' ≤ c && c ≤ '7' then
        let (n, count) := readOctal 0 3 (b :: rest)
        .ok ⟨[Char.ofNat n], count, ()⟩
      else .ok ⟨['\\', c], 1, ()⟩

/-- Reads what follows a backslash in the raw form. -/
def readRawEscape : Bytes → Except Fault (Chunk Unit)
  | [] => .ok ⟨['\\'], 0, ()⟩
  | b :: rest =>
    if byteChar b = 'u' then readHex .short .rawEscapeAbove rest
    else if byteChar b = 'U' then readHex .long .rawEscapeAbove rest
    else .ok ⟨['\\', byteChar b], 1, ()⟩

/-- Reads a character or an escape. -/
def readChunk (escape : Bytes → Except Fault (Chunk Unit)) : ChunkReader Unit := fun _ b rest =>
  if b = 0x5C then escape rest else .ok ⟨[byteChar b], 0, ()⟩

/-- The text of bytes. -/
def decode (raw : Bool) (data : Bytes) : Except DecodeError Text :=
  decodeChunks (readChunk (if raw then readRawEscape else readEscape)) () data

/-- A character as it is written: in the full form by characters of ASCII that can be printed. -/
def written (raw : Bool) (c : Char) : Text :=
  if raw then if c.toNat < 256 then [c] else codePointEscape c.toNat
  else if c.toNat < 128 then escapedChar c
  else codePointEscape c.toNat

/-- The bytes of a character. -/
def charBytes (raw : Bool) (c : Char) : Bytes :=
  (written raw c).map fun d => UInt8.ofNat d.toNat

end SchemaMill.Charset.Escaped

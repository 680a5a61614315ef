import SchemaMill.Text.Basic

/-!
# Bytes and how they are read

Every encoding reads what is at the start of some bytes and says how many further bytes belong to
it. Reading goes on after these, until no byte is left or something cannot be read. In ASCII each
byte is a character, a code point below 128.
-/

namespace SchemaMill.Charset

/-- A sequence of bytes. -/
abbrev Bytes := List UInt8

/-- The character whose code point is a byte. -/
def byteChar (b : UInt8) : Char := Char.ofNat b.toNat

/-- An escape by a fixed number of hexadecimal digits. -/
inductive HexEscape where
  /-- Two digits after `x`. -/
  | byte
  /-- Four digits after `u`. -/
  | short
  /-- Eight digits after `U`. -/
  | long
  deriving DecidableEq, Repr

/-- The number of digits of an escape. -/
def HexEscape.width : HexEscape → Nat
  | byte => 2
  | short => 4
  | long => 8

/-- The letter that tells an escape. -/
def HexEscape.letter : HexEscape → Char
  | byte => 'x'
  | short => 'u'
  | long => 'U'

/-- Why bytes are no character of an encoding. -/
inductive Fault where
  /-- The byte begins no character. -/
  | invalidStart
  /-- A byte does not continue the character. -/
  | invalidContinuation
  /-- The bytes end inside the character. -/
  | unexpectedEnd
  /-- The first half of a pair of surrogates is not followed by a second half. -/
  | illegalSurrogate
  /-- The second half of a pair of surrogates stands alone. -/
  | illegalUnit
  /-- The bytes end inside a unit. -/
  | truncated
  /-- The number is above all code points. -/
  | outOfRange
  /-- The number is a surrogate. -/
  | surrogate
  /-- The byte is above the range of ASCII. -/
  | notAscii
  /-- The byte stands for no character. -/
  | undefined
  /-- The bytes end inside a sequence. -/
  | incompleteSequence
  /-- The bytes are no sequence. -/
  | illegalSequence
  /-- The byte stands for nothing outside of a shifted run. -/
  | specialCharacter
  /-- A plus sign begins no shifted run. -/
  | illFormedShift
  /-- A shifted run ends inside a character. -/
  | partialCharacter
  /-- A shifted run ends with bits that belong to no character. -/
  | paddingBits
  /-- The bytes end inside a shifted run. -/
  | unterminatedShift
  /-- A backslash is the last character. -/
  | endingBackslash
  /-- An escape has too few digits. -/
  | truncatedEscape (e : HexEscape)
  /-- An escape stands for a number above all code points. -/
  | escapeAbove
  /-- The same where only code points are escaped. -/
  | rawEscapeAbove
  /-- An escape by name has no name. -/
  | malformedName
  /-- No character has the name in an escape. -/
  | unknownName
  deriving DecidableEq, Repr

/-- A fault in words. -/
def Fault.reason : Fault → Text
  | invalidStart => "invalid start byte"
  | invalidContinuation => "invalid continuation byte"
  | unexpectedEnd => "unexpected end of data"
  | illegalSurrogate => "illegal UTF-16 surrogate"
  | illegalUnit => "illegal encoding"
  | truncated => "truncated data"
  | outOfRange => "code point not in range(0x110000)"
  | surrogate => "code point in surrogate code point range(0xd800, 0xe000)"
  | notAscii => "ordinal not in range(128)"
  | undefined => "character maps to <undefined>"
  | incompleteSequence => "incomplete multibyte sequence"
  | illegalSequence => "illegal multibyte sequence"
  | specialCharacter => "unexpected special character"
  | illFormedShift => "ill-formed sequence"
  | partialCharacter => "partial character in shift sequence"
  | paddingBits => "non-zero padding bits in shift sequence"
  | unterminatedShift => "unterminated shift sequence"
  | endingBackslash => "\\ at end of string"
  | truncatedEscape e =>
    "truncated \\".toList ++ e.letter :: List.replicate e.width 'X' ++ " escape".toList
  | escapeAbove => "illegal Unicode character"
  | rawEscapeAbove => "\\Uxxxxxxxx out of range"
  | malformedName => "malformed \\N character escape"
  | unknownName => "unknown Unicode character name"

/-- A fault and where it is. -/
structure DecodeError where
  fault : Fault
  /-- The number of bytes before the character that cannot be read. -/
  offset : Nat
  deriving DecidableEq, Repr

/-- What is read at the start of some bytes. -/
structure Chunk (σ : Type) where
  text : Text
  /-- The number of bytes after the first that belong to it. -/
  further : Nat
  /-- The state in which reading goes on. -/
  next : σ

/-- Reads what begins with a byte, from a state, that byte and what follows it. -/
abbrev ChunkReader (σ : Type) := σ → UInt8 → Bytes → Except Fault (Chunk σ)

/-- Reads the character that begins with a byte, from that byte and what follows it: the character
and the number of further bytes that belong to it. -/
abbrev CharReader := UInt8 → Bytes → Except Fault (Char × Nat)

/-- A reader of characters as a reader without states. -/
def CharReader.chunks (read : CharReader) : ChunkReader Unit := fun _ b rest =>
  (read b rest).map fun (c, further) => ⟨[c], further, ()⟩

/-- Reads all chunks from a state and an offset on, after `skip` bytes that belong to the chunk
before. The text read so far is `taken`, last character first. -/
def decodeFrom {σ : Type} (read : ChunkReader σ) (state : σ) (taken : Text) (offset : Nat) :
    (skip : Nat) → Bytes → Except DecodeError Text
  | _, [] => .ok taken.reverse
  | skip + 1, _ :: rest => decodeFrom read state taken (offset + 1) skip rest
  | 0, b :: rest =>
    match read state b rest with
    | .ok chunk =>
      decodeFrom read chunk.next (chunk.text.reverse ++ taken) (offset + 1) chunk.further rest
    | .error fault => .error ⟨fault, offset⟩

/-- Reads all chunks of some bytes. -/
def decodeChunks {σ : Type} (read : ChunkReader σ) (start : σ) (data : Bytes) :
    Except DecodeError Text :=
  decodeFrom read start [] 0 0 data

/-- Reads all characters of some bytes. -/
def decodeWith (read : CharReader) (data : Bytes) : Except DecodeError Text :=
  decodeChunks read.chunks () data

/-- The order of the bytes of a code unit. -/
inductive ByteOrder where
  /-- The highest byte comes first. -/
  | big
  /-- The lowest byte comes first. -/
  | little
  deriving DecidableEq, Repr

/-- The bytes of a code unit from the lowest to the highest, in an order. -/
def ByteOrder.arrange (o : ByteOrder) (lowestFirst : Bytes) : Bytes :=
  match o with
  | big => lowestFirst.reverse
  | little => lowestFirst

/-- The value of bytes from the lowest to the highest. -/
def unitValue : Bytes → Nat
  | [] => 0
  | b :: rest => b.toNat + 256 * unitValue rest

/-! ### ASCII -/

namespace Ascii

/-- Reads one character. -/
def readChar : CharReader := fun b _ =>
  if b < 0x80 then .ok (byteChar b, 0) else .error .notAscii

/-- The text of bytes. -/
def decode (data : Bytes) : Except DecodeError Text := decodeWith readChar data

/-- Whether all characters of a text are in ASCII. -/
def isAscii (t : Text) : Bool := t.all fun c => decide (c.toNat < 128)

/-- The bytes of a text in ASCII. -/
def encode (t : Text) : Bytes := t.map fun c => UInt8.ofNat c.toNat

end Ascii

end SchemaMill.Charset

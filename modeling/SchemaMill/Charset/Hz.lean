import SchemaMill.Charset.Bytes

/-!
# HZ

Text in bytes of seven bits, with a tilde before what switches between ASCII and pairs of bytes for
Chinese characters. None of the pairs is read.
-/

namespace SchemaMill.Charset.Hz

/-- Reads what begins with a byte, where `paired` tells whether bytes stand in pairs. -/
def readChunk : ChunkReader Bool := fun paired b rest =>
  if b = 0x7E then
    match rest with
    | [] => .error .incompleteSequence
    | c :: _ =>
      if paired then if c = 0x7D then .ok ⟨[], 1, false⟩ else .error .illegalSequence
      else if c = 0x7E then .ok ⟨['~'], 1, false⟩
      else if c = 0x7B then .ok ⟨[], 1, true⟩
      else if c = 0x0A then .ok ⟨[], 1, false⟩
      else .error .illegalSequence
  else if 0x80 ≤ b then .error .illegalSequence
  else if !paired then .ok ⟨[byteChar b], 0, false⟩
  else if rest.isEmpty then .error .incompleteSequence
  else .error .illegalSequence

/-- The text of bytes. -/
def decode (data : Bytes) : Except DecodeError Text := decodeChunks readChunk false data

/-- The bytes of a character of ASCII. -/
def charBytes? (c : Char) : Option Bytes :=
  if c = '~' then some [0x7E, 0x7E]
  else if c.toNat < 128 then some [UInt8.ofNat c.toNat]
  else none

end SchemaMill.Charset.Hz

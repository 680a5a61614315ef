import SchemaMill.Charset.Domain.Name
import SchemaMill.Charset.Escaped
import SchemaMill.Charset.Hz
import SchemaMill.Charset.Iso2022
import SchemaMill.Charset.Multibyte
import SchemaMill.Charset.Utf7
import SchemaMill.Charset.Utf8

/-!
# Encodings

An encoding reads bytes as text and writes text as bytes. Of the multibyte encodings of East Asia
few characters above ASCII are known.

Most encodings can write any text: a question mark takes the place of a character that an encoding
does not have. Some refuse texts and bytes as a whole.
-/

namespace SchemaMill.Charset

/-- A character encoding. -/
inductive Encoding where
  /-- The code points below 128. -/
  | ascii
  /-- The code points below 256. -/
  | latin1
  | utf7
  /-- UTF-8, with or without a mark at its start. -/
  | utf8 (marked : Bool)
  /-- UTF-16; without an order, a mark at the start tells it. -/
  | utf16 (order : Option ByteOrder)
  /-- UTF-32; without an order, a mark at the start tells it. -/
  | utf32 (order : Option ByteOrder)
  | page (p : CodePage)
  /-- A multibyte encoding that extends ASCII. -/
  | multibyte (m : Multibyte)
  | hz
  | iso2022 (v : Iso2022.Variant)
  /-- Escaped text in the raw or the full form. -/
  | escaped (raw : Bool)
  | punycode
  | domain
  /-- The encoding that refuses everything. -/
  | undefined
  deriving DecidableEq, Repr

/-- Why bytes are not read. -/
inductive ReadFailure where
  /-- Something in them cannot be read. -/
  | invalid (e : DecodeError)
  /-- They are refused as a whole. -/
  | refused
  deriving DecidableEq, Repr

/-- The bytes of a text, and the offset of the first character that had to be replaced. -/
structure Encoded where
  bytes : Bytes
  /-- The offset of the first replaced character, if there is one. -/
  replaced : Option Nat
  deriving DecidableEq, Repr

namespace Encoding

/-- Reads a byte as the code point of its value. -/
def readLatin1 : CharReader := fun b _ => .ok (byteChar b, 0)

/-- Reads text in the order of the mark at its start, or with the lowest byte first. -/
def decodeMarked (mark : ByteOrder → Bytes) (read : ByteOrder → CharReader) (data : Bytes) :
    Except DecodeError Text :=
  let length := (mark .little).length
  let decodeAfter (o : ByteOrder) : Except DecodeError Text :=
    decodeFrom (read o).chunks () [] length 0 (data.drop length)
  if data.take length = mark .little then decodeAfter .little
  else if data.take length = mark .big then decodeAfter .big
  else decodeWith (read .little) data

/-- The text that bytes are; nothing if they are refused as a whole. Offsets of faults count from the
first byte, in UTF-8 from the first byte after the mark, and in Punycode and domain names from the
start of the part that has the fault. -/
def decode? (e : Encoding) (data : Bytes) : Except DecodeError (Option Text) :=
  match e with
  | ascii => (Ascii.decode data).map some
  | latin1 => (decodeWith readLatin1 data).map some
  | utf7 => (Utf7.decode data).map some
  | utf8 marked => (Utf8.decode (if marked then Utf8.dropMark data else data)).map some
  | utf16 (some o) => (decodeWith (Utf16.readChar o) data).map some
  | utf16 none => (decodeMarked Utf16.mark Utf16.readChar data).map some
  | utf32 (some o) => (decodeWith (Utf32.readChar o) data).map some
  | utf32 none => (decodeMarked Utf32.mark Utf32.readChar data).map some
  | page p => (decodeWith p.readChar data).map some
  | multibyte m => (decodeWith m.readChar data).map some
  | hz => (Hz.decode data).map some
  | iso2022 v => (Iso2022.decode v data).map some
  | escaped raw => (Escaped.decode raw data).map some
  | punycode => Punycode.decode data
  | domain => Domain.decode data
  | undefined => .ok none

/-- The text that bytes are. -/
def decode (e : Encoding) (data : Bytes) : Except ReadFailure Text :=
  match e.decode? data with
  | .ok (some t) => .ok t
  | .ok none => .error .refused
  | .error fault => .error (.invalid fault)

/-- The bytes of a character, if the encoding writes its characters one by one and has this one. -/
def charBytes? (e : Encoding) (c : Char) : Option Bytes :=
  match e with
  | ascii | iso2022 _ => if c.toNat < 128 then some [UInt8.ofNat c.toNat] else none
  | latin1 => if c.toNat < 256 then some [UInt8.ofNat c.toNat] else none
  | utf8 _ => some (String.utf8EncodeChar c)
  | utf16 order => some (Utf16.charBytes (order.getD .little) c)
  | utf32 order => some (Utf32.charBytes (order.getD .little) c)
  | page p => (p.byte? c).map fun b => [b]
  | multibyte m => m.charBytes? c
  | hz => Hz.charBytes? c
  | escaped raw => some (Escaped.charBytes raw c)
  | utf7 | punycode | domain | undefined => none

/-- What is written before the first character. -/
def lead : Encoding → Bytes
  | utf8 true => Utf8.mark
  | utf16 none => Utf16.mark .little
  | utf32 none => Utf32.mark .little
  | _ => []

/-- What is written for a character that the encoding does not have. -/
def substitute (e : Encoding) : Bytes := (e.charBytes? '?').getD []

/-- A text written character by character. -/
def encodeChars (e : Encoding) (t : Text) : Encoded :=
  ⟨e.lead ++ t.flatMap fun c => (e.charBytes? c).getD e.substitute,
    t.findIdx? fun c => (e.charBytes? c).isNone⟩

/-- The bytes of a text, unless it is refused. -/
def encode? (e : Encoding) (t : Text) : Option Encoded :=
  match e with
  | utf7 => some ⟨Utf7.encode t, none⟩
  | punycode => some ⟨Punycode.encode t, none⟩
  | domain => (Domain.encode? t).map fun bytes => ⟨bytes, none⟩
  | undefined => none
  | _ => some (e.encodeChars t)

end Encoding

end SchemaMill.Charset

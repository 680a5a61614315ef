import SchemaMill.Charset.Names
import SchemaMill.Notice

/-!
# Reading and writing bytes by the name of an encoding

Bytes are read in an encoding that is given by name or found out: UTF-8 with or without a mark, then
the Western European code page of Windows, then the first 256 code points, which fit any bytes.
-/

namespace SchemaMill.Charset

/-- Why bytes cannot be read or written. -/
inductive TranscodeError where
  /-- The name stands for no codec. -/
  | name (e : NameError)
  /-- The codec has no character encoding. -/
  | noEncoding (codec : Text)
  /-- The bytes are not in the encoding of the given name. -/
  | invalid (given : Text) (e : DecodeError)
  /-- The encoding of the given name refuses the bytes or the text as a whole. -/
  | refused (given : Text)
  deriving DecidableEq, Repr

/-- An error in words. -/
def TranscodeError.message : TranscodeError → Text
  | name e => e.message
  | noEncoding codec => codec ++ " is not a text encoding".toList
  | invalid given e =>
    "Input is not valid ".toList ++ given ++ ": ".toList ++ e.fault.reason ++ " at byte ".toList ++
      decimal e.offset
  | refused given => "Text cannot be given in ".toList ++ given

/-- The encoding that a name stands for. -/
def encodingOf (given : Text) : Except TranscodeError Encoding :=
  match codecOf given with
  | .error e => .error (.name e)
  | .ok codec =>
    match codec.encoding with
    | some encoding => .ok encoding
    | none => .error (.noEncoding codec.name)

/-- The text of bytes whose encoding is not known. -/
def decodeAuto (data : Bytes) : Text :=
  match Utf8.decode (Utf8.dropMark data) with
  | .ok t => t
  | .error _ =>
    match decodeWith CodePage.cp1252.readChar data with
    | .ok t => t
    | .error _ => data.map byteChar

/-- A failure to read bytes in an encoding of the given name. -/
def TranscodeError.ofFailure (given : Text) : ReadFailure → TranscodeError
  | .invalid e => .invalid given e
  | .refused => .refused given

/-- The text of bytes in an encoding of the given name. No bytes are no text in every codec. -/
def decodeSource (given : Text) (data : Bytes) : Except TranscodeError Text :=
  if isAuto given then .ok (decodeAuto data)
  else if data.isEmpty then (codecOf given).map (fun _ => []) |>.mapError .name
  else do
    let encoding ← encodingOf given
    (encoding.decode data).mapError (.ofFailure given)

/-- The notice about a replaced character, under the name that was given for the encoding. -/
def Encoded.notices (e : Encoded) (given : Text) : List Notice :=
  e.replaced.toList.map (.replaced given)

/-- The bytes of a text in an encoding of the given name. -/
def encodeTarget (given : Text) (t : Text) : Except TranscodeError Encoded := do
  let encoding ← encodingOf given
  match encoding.encode? t with
  | some encoded => .ok encoded
  | none => .error (.refused given)

/-- Bytes in one encoding moved to another. -/
def transcode (source target : Text) (data : Bytes) : Except TranscodeError Encoded := do
  encodeTarget target (← decodeSource source data)

end SchemaMill.Charset

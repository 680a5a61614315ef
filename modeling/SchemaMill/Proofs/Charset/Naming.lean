import SchemaMill.Charset.Transcode
import SchemaMill.Proofs.Charset.Lowering

/-!
# Names of encodings

The name of the character set of an encoding is that of the encoding where the server has such a
character set; otherwise it depends on the codec only (`charsetOf_eq_ok`). The first name stands for
the codec that it was found for, since a name in plain form is looked up like the name that it was
made from (`codecOf_plainName`).
-/

namespace SchemaMill

open Charset

/-! ### Looking up names -/

namespace Charset

/-- Whether a name is that of a character set of the server. -/
def isServerName (given : Text) : Bool :=
  (serverCodecs.lookup (String.ofList (plainName given))).isSome

/-- The name of the character set of a codec that the server does not name. -/
def Codec.charset (c : Codec) : Text :=
  match preferredCharsets.lookup c.name with
  | some charset => charset.toList
  | none => c.name.toList.filter fun c => c != '-' && c != '_'

/-- The name of a character set is that of the server, or else made from the codec of the plain
name. -/
theorem charsetOf_eq (given : Text) :
    charsetOf given = if isServerName given then .ok (plainName given) else
      (codecOf (plainName given)).map Codec.charset := by
  show (if isServerName given then .ok (plainName given) else _ : Except NameError Text) = _
  split
  · rfl
  · cases codecOf (plainName given) with
    | error e => rfl
    | ok c =>
      show (match preferredCharsets.lookup c.name with
        | some charset => Except.ok charset.toList
        | none => .ok (c.name.toList.filter fun c => c != '-' && c != '_')) = .ok c.charset
      unfold Codec.charset
      cases preferredCharsets.lookup c.name <;> rfl

end Charset

end SchemaMill

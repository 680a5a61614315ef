import SchemaMill.Charset.Codecs
import SchemaMill.Text.Blank
import SchemaMill.Text.Letter

/-!
# Names of encodings

Encodings go by the names that a MySQL server has for character sets, and by the names of codecs.
The name of the character set that belongs to an encoding is what statements say.
-/

namespace SchemaMill.Charset

/-- The codecs of the character sets of a MySQL server. Its `latin1` is the code page of Windows. -/
def serverCodecs : List (String × String) :=
  [("utf8mb4", "utf-8"), ("utf8mb3", "utf-8"), ("utf8", "utf-8"), ("latin1", "cp1252"),
    ("latin2", "iso8859-2"), ("ascii", "ascii"), ("cp1250", "cp1250"), ("cp1251", "cp1251"),
    ("cp1256", "cp1256"), ("koi8r", "koi8-r"), ("koi8u", "koi8-u"), ("sjis", "shift_jis"),
    ("ujis", "euc_jp"), ("euckr", "euc_kr"), ("gbk", "gbk"), ("big5", "big5"),
    ("utf16", "utf-16-be"), ("utf32", "utf-32-be")]

/-- The character sets of codecs that do not have the name of their codec. -/
def preferredCharsets : List (String × String) :=
  [("utf-8", "utf8mb4"), ("cp1252", "latin1"), ("iso8859-1", "latin1"), ("iso8859-2", "latin2")]

/-- Why a name stands for no codec. -/
inductive NameError where
  | unknown (name : Text)
  | nullCharacter
  deriving DecidableEq, Repr

/-- A name error in words. -/
def NameError.message : NameError → Text
  | unknown name => "Unknown encoding: ".toList ++ name
  | nullCharacter => "embedded null character"

/-- A name as it is given, without blanks around it and in small letters. -/
def plainName (given : Text) : Text := lowerCase (trim given)

/-- The runs of ASCII letters, digits and points in a name, with underscores between them. -/
def codecKey (name : Text) : Text :=
  joinWith ['_'] ((splitWhere (fun c => !(c.isAlphanum || c == '.')) name).filter (!·.isEmpty))

/-- The codec with a given key. With points in it, a key is only looked for among the aliases, as it
is and with underscores in their place. -/
def findCodec? (key : Text) : Option Codec :=
  let dotless := key.map fun c => if c == '.' then '_' else c
  let has (names : List String) (key : Text) : Bool := names.contains (String.ofList key)
  (codecs.find? fun c => has c.aliases key).or
    ((codecs.find? fun c => has c.aliases dotless).or
      (if key.contains '.' then none else codecs.find? fun c => has c.keys key))

/-- The codec that a name without blanks around it and in small letters stands for; `given` is the
name to complain about. -/
def codecOfPlain (given name : Text) : Except NameError Codec :=
  match serverCodecs.lookup (String.ofList name) with
  | some codec =>
    match codecs.find? fun c => c.name == codec with
    | some c => .ok c
    | none => .error (.unknown given)
  | none =>
    if name.contains '\x00' then .error .nullCharacter
    else match findCodec? (codecKey name) with
      | some c => .ok c
      | none => .error (.unknown given)

/-- The codec that a name stands for. -/
def codecOf (given : Text) : Except NameError Codec := codecOfPlain given (plainName given)

/-- The name of the character set that belongs to an encoding. -/
def charsetOf (given : Text) : Except NameError Text :=
  let name := plainName given
  if (serverCodecs.lookup (String.ofList name)).isSome then .ok name
  else do
    let codec ← codecOf name
    match preferredCharsets.lookup codec.name with
    | some charset => .ok charset.toList
    | none => .ok (codec.name.toList.filter fun c => c != '-' && c != '_')

/-- The name that asks for the encoding to be found out. -/
def isAuto (given : Text) : Bool := plainName given == "auto".toList

end SchemaMill.Charset

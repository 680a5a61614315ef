import SchemaMill.Text.Numeral
import SchemaMill.Text.NameRows
import SchemaMill.Text.Basic

/-!
# Characters by name

Characters of the European scripts, signs and pictures have names of their own, in small letters or
capitals. The names of Korean syllables are made of those of their letters, and Chinese characters
are named by their code points.
-/

namespace SchemaMill

/-- The character of a name in capitals among rows of names from a code point on. -/
def namedInRun? (name : Text) (first : Nat) (rows : List String) : Option Char :=
  let names := rows.flatMap fun row => (splitWhere (· == ';') row.toList).filter (!·.isEmpty)
  (names.idxOf? name).map fun n => Char.ofNat (first + n)

/-- The names of the consonants that begin Korean syllables. -/
def leadNames : List String :=
  ["G", "GG", "N", "D", "DD", "R", "M", "B", "BB", "S", "SS", "", "J", "JJ", "C", "K", "T", "P",
    "H"]

/-- The names of the vowels of Korean syllables. -/
def vowelNames : List String :=
  ["A", "AE", "YA", "YAE", "EO", "E", "YEO", "YE", "O", "WA", "WAE", "OE", "YO", "U", "WEO", "WE",
    "WI", "YU", "EU", "YI", "I"]

/-- The names of what ends Korean syllables. -/
def tailNames : List String :=
  ["", "G", "GG", "GS", "N", "NJ", "NH", "D", "L", "LG", "LM", "LB", "LS", "LT", "LP", "LH", "M",
    "B", "BS", "S", "SS", "NG", "J", "C", "K", "T", "P", "H"]

/-- The name of a Korean syllable, counted from the first. -/
def syllableName (n : Nat) : String :=
  leadNames.getD (n / 588) "" ++ vowelNames.getD (n / 28 % 21) "" ++ tailNames.getD (n % 28) ""

/-- The Korean syllable of a name. -/
def syllable? (name : Text) : Option Char :=
  ((List.range 11172).find? fun n => (syllableName n).toList = name).map fun n =>
    Char.ofNat (0xAC00 + n)

/-- The code points of Chinese characters that are named by them. -/
def ideographRanges : CharRanges :=
  [(0x3400, 0x4DBF), (0x4E00, 0x9FFF), (0x20000, 0x2A6DF), (0x2A700, 0x2B738), (0x2B740, 0x2B81D),
   (0x2B820, 0x2CEA1), (0x2CEB0, 0x2EBE0), (0x30000, 0x3134A)]

/-- The Chinese character of a code point in four or five digits, with capitals among them. -/
def ideograph? (number : Text) : Option Char :=
  if (number.length = 4 || number.length = 5) && !number.any Char.isLower then
    (readHex? number.length 0 number).bind fun n =>
      if ideographRanges.covers (Char.ofNat n) then some (Char.ofNat n) else none
  else none

/-- The character of a name. -/
def namedChar? (name : Text) : Option Char :=
  match dropPrefix? "HANGUL SYLLABLE ".toList name,
      dropPrefix? "CJK UNIFIED IDEOGRAPH-".toList name with
  | some spelled, _ => syllable? spelled
  | none, some number => ideograph? number
  | none, none =>
    let capitals := name.map Char.toUpper
    (nameRuns.findSome? fun (first, rows) => namedInRun? capitals first rows).or
      ((otherNames.lookup (String.ofList capitals)).map Char.ofNat)

end SchemaMill

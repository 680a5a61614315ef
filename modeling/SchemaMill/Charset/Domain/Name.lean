import SchemaMill.Charset.Domain.Preparation
import SchemaMill.Charset.Punycode

/-!
# Domain names

The labels of a domain name are written in ASCII. A label with other characters is prepared and
written in Punycode, with a mark before it. A name is refused if a label is empty or too long, or if
a label in Punycode is not the one that its text is written as.
-/

namespace SchemaMill.Charset.Domain

/-- The mark before a label in Punycode. -/
def mark : Text := "xn--".toList

/-- A label has fewer characters. -/
def longestLabel : Nat := 64

/-- A label in ASCII, unless it is empty or too long. -/
def sized? (label : Text) : Option Text :=
  if label ≠ [] && label.length < longestLabel then some label else none

/-- Whether a character separates labels. -/
def isDot (c : Char) : Bool := c == '.' || c == '。' || c == '．' || c == '｡'

/-- A label in ASCII. -/
def asciiLabel? (label : Text) : Option Text :=
  if Ascii.isAscii label then sized? label
  else do
    let t ← prepared? label
    if Ascii.isAscii t then sized? t
    else if (dropPrefix? mark t).isSome then none
    else sized? (mark ++ Punycode.written t)

/-- Labels without an empty one at their end, and the dot that is written for it. -/
def splitEnd (labels : List Text) : List Text × Text :=
  if labels.getLast? = some [] then (labels.dropLast, ['.']) else (labels, [])

/-- A name in ASCII is kept as it is. -/
def checked? (t : Text) : Option Text := do
  let labels := splitWhere (· == '.') t
  let _ ← labels.dropLast.mapM sized?
  if (labels.getLast?.getD []).length < longestLabel then some t else none

/-- A name in ASCII. -/
def written? (t : Text) : Option Text :=
  if t = [] then some []
  else if Ascii.isAscii t then checked? t
  else do
    let (labels, last) := splitEnd (splitWhere isDot t)
    some (joinWith ['.'] (← labels.mapM asciiLabel?) ++ last)

/-- The bytes of a name. -/
def encode? (t : Text) : Option Bytes := (written? t).map Ascii.encode

/-- The text of a label of single bytes; nothing if it is refused. -/
def readLabel (label : Text) : Except DecodeError (Option Text) := do
  match dropPrefix? mark label with
  | none => (Ascii.decode (Ascii.encode label)).map some
  | some rest =>
    match ← Punycode.decode (Ascii.encode rest) with
    | none => .ok none
    | some t => .ok (if asciiLabel? t = some (label.map Char.toLower) then some t else none)

/-- The texts of labels, up to one that cannot be read; nothing if one is refused before. -/
def readLabels : List Text → Except DecodeError (Option (List Text))
  | [] => .ok (some [])
  | label :: rest => do
    match ← readLabel label with
    | none => .ok none
    | some t => return (← readLabels rest).map (t :: ·)

/-- Whether the mark stands anywhere in a text. -/
def hasMark : Text → Bool
  | [] => false
  | c :: rest => (dropPrefix? mark (c :: rest)).isSome || hasMark rest

/-- The text of bytes; nothing if a label is refused. -/
def decode (data : Bytes) : Except DecodeError (Option Text) := do
  let t := data.map byteChar
  if Ascii.isAscii t && !hasMark t then .ok (some t)
  else
    let (labels, last) := splitEnd (splitWhere (· == '.') t)
    .ok ((← readLabels labels).map fun texts => joinWith ['.'] texts ++ last)

end SchemaMill.Charset.Domain

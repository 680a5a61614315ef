import SchemaMill.Text.Printable
import SchemaMill.Value.Basic

/-!
# Values as JSON text

Values are written on one line with given separators, or indented by two spaces with each item on a
line of its own. Of the characters in a text only the quote, the backslash and the control
characters are escaped.
-/

namespace SchemaMill.Json

/-- One character inside a quoted text. -/
def escaped (c : Char) : Text :=
  if c == '"' then ['\\', '"']
  else if c == '\\' then ['\\', '\\']
  else if c == '\n' then ['\\', 'n']
  else if c == '\r' then ['\\', 'r']
  else if c == '\t' then ['\\', 't']
  else if c == '\x08' then ['\\', 'b']
  else if c == '\x0c' then ['\\', 'f']
  else if c.toNat < 32 then '\\' :: 'u' :: hexDigits 4 c.toNat
  else [c]

/-- A text in quotes. -/
def quoted (t : Text) : Text := '"' :: t.flatMap escaped ++ ['"']

/-- A number in JSON text; the infinities and what is no number have names of their own. -/
def numberText : Double → Text
  | .nan => "NaN"
  | .infinite negative => if negative then "-Infinity" else "Infinity"
  | d => d.text

/-- What stands between two items, and between a key and its value. -/
structure Separators where
  /-- Between two items. -/
  item : Text
  /-- Between a key and its value. -/
  key : Text

/-- Separators without blanks. -/
def tight : Separators := ⟨",", ":"⟩

/-- Separators with a blank after each. -/
def loose : Separators := ⟨", ", ": "⟩

/-- Items between brackets, with the separator between each two. -/
def enclosed (opening : Char) (closing : Char) (separator : Text) (items : List Text) : Text :=
  opening :: joinWith separator items ++ [closing]

mutual

/-- The JSON text of a value on one line. -/
def print (s : Separators) : Value → Text
  | .null => "null"
  | .bool b => if b then "true" else "false"
  | .int n => decimalInt n
  | .double d => numberText d
  | .text t => quoted t
  | .array items => enclosed '[' ']' s.item (printItems s items)
  | .object fields => enclosed '\x7b' '\x7d' s.item (printFields s fields)

/-- The JSON texts of several values. -/
def printItems (s : Separators) : List Value → List Text
  | [] => []
  | v :: rest => print s v :: printItems s rest

/-- The JSON texts of several fields. -/
def printFields (s : Separators) : List (Text × Value) → List Text
  | [] => []
  | (k, v) :: rest => (quoted k ++ s.key ++ print s v) :: printFields s rest

end

/-- A line break and the blanks before a line at a given depth. -/
def newline (depth : Nat) : Text := '\n' :: List.replicate (2 * depth) ' '

/-- Items between brackets, each on a line of its own one level deeper than the brackets; brackets
without items stand together. -/
def block (depth : Nat) (opening : Char) (closing : Char) (items : List Text) : Text :=
  if items.isEmpty then [opening, closing]
  else opening :: newline (depth + 1) ++ joinWith (',' :: newline (depth + 1)) items ++
    newline depth ++ [closing]

mutual

/-- The indented JSON text of a value whose brackets stand at a given depth. -/
def printIndented (depth : Nat) : Value → Text
  | .array items => block depth '[' ']' (printItemsIndented (depth + 1) items)
  | .object fields => block depth '\x7b' '\x7d' (printFieldsIndented (depth + 1) fields)
  | .null => "null"
  | .bool b => if b then "true" else "false"
  | .int n => decimalInt n
  | .double d => numberText d
  | .text t => quoted t

/-- The indented JSON texts of several values. -/
def printItemsIndented (depth : Nat) : List Value → List Text
  | [] => []
  | v :: rest => printIndented depth v :: printItemsIndented depth rest

/-- The indented JSON texts of several fields. -/
def printFieldsIndented (depth : Nat) : List (Text × Value) → List Text
  | [] => []
  | (k, v) :: rest =>
    (quoted k ++ ": ".toList ++ printIndented depth v) :: printFieldsIndented depth rest

end

end SchemaMill.Json

import SchemaMill.Calendar.Layout
import SchemaMill.Decimal.Number
import SchemaMill.Json.Printer
import SchemaMill.Json.Reader

/-!
# What a value is evidence of

Every value has one text, whether it came as text or as a number, and answers the questions on which
the type of a column depends: is it empty, is it nested, is it a number, is it a date.
-/

namespace SchemaMill.Value

/-- Null and the empty text say nothing about a type. -/
def isEmpty : Value → Bool
  | null => true
  | text [] => true
  | _ => false

/-- The text of a value. Numbers without a fraction are written as integers, arrays and objects as
JSON text without blanks. -/
def render : Value → Text
  | text t => t
  | null => "None"
  | bool b => if b then "true" else "false"
  | int n => decimalInt n
  | double d => if d.isIntegral then decimalInt d.truncate else d.text
  | array items => Json.print Json.tight (array items)
  | object fields => Json.print Json.tight (object fields)

/-- Whether a value is an array or an object. -/
def isNested : Value → Bool
  | array _ => true
  | object _ => true
  | _ => false

/-- Whether a text is the JSON text of an array or an object, with blanks around it. -/
def spellsNested (t : Text) : Bool :=
  let t := trim t
  (t.head? == some '[' || t.head? == some '\x7b') &&
    match Json.read t with
    | .ok v => v.isNested
    | .error _ => false

/-- Whether a value is an array or an object, or the JSON text of one. -/
def isStructured : Value → Bool
  | text t => spellsNested t
  | v => v.isNested

/-- A number if it is finite. -/
def finite? (d : Double) : Option Double := if d.isFinite then some d else none

/-- The finite number that a value is or spells. Truth values are no numbers. -/
def number? : Value → Option Double
  | int n => finite? (.ofInt n)
  | double d => finite? d
  | text t => readNumber? t
  | _ => none

/-- Whether a text begins like a date of numbers: up to four digits, up to two digits, and a digit,
with hyphens, slashes or points between them. -/
def beginsLikeDate (t : Text) : Bool :=
  let isMark (c : Char) : Bool := c == '-' || c == '/' || c == '.'
  let field (most : Nat) (t : Text) : Option Text :=
    let digits := t.takeWhile isDecimalDigit
    if 1 ≤ digits.length && digits.length ≤ most then
      match t.dropWhile isDecimalDigit with
      | c :: rest => if isMark c then some rest else none
      | [] => none
    else none
  match (field 4 t).bind (field 2) with
  | some (c :: _) => isDecimalDigit c
  | _ => false

/-- Whether a text holds three letters of the Latin alphabet in a row. -/
def holdsName (t : Text) : Bool :=
  match t with
  | [] => false
  | _ :: rest =>
    ((t.take 3).length == 3 && (t.take 3).all Char.isAlpha) || holdsName rest

/-- Whether a text is a date, with blanks around it. A plain number is no date. -/
def spellsDate (t : Text) : Bool :=
  let t := trim t
  !t.isEmpty && (readNumber? t).isNone && (beginsLikeDate t || holdsName t) &&
    (readMoment? t).isSome

/-- Whether a value is the text of a date. -/
def isDate : Value → Bool
  | text t => spellsDate t
  | _ => false

/-- The text of a value in a cell; an empty value is an empty cell. -/
def cell (v : Value) : Text := if v.isEmpty then [] else v.render

end SchemaMill.Value

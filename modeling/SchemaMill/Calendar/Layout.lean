import SchemaMill.Calendar.Iso
import SchemaMill.Text.Blank

/-!
# Moments in other layouts

A layout is a list of directives. Each directive can be read in several ways, the preferred one
first; the first way through all directives is taken, and it has to use up the whole text.
-/

namespace SchemaMill

/-- The names of the months in small letters. -/
def monthNames : List String :=
  ["january", "february", "march", "april", "may", "june", "july", "august", "september", "october",
    "november", "december"]

/-- What may stand at one place of a layout. -/
inductive Directive where
  | day
  /-- The number of the month. -/
  | month
  /-- The first three letters of the name of the month. -/
  | monthShort
  | monthName
  /-- A year of four digits. -/
  | year
  | hour
  | minute
  | second
  | blanks
  | sign (c : Char)
  deriving DecidableEq, Repr

namespace Directive

/-- Reads two digits of which the first is one of `tens`; the second may be of any script. -/
def twoDigits (tens : String) (t : Text) : List (Nat × Text) :=
  match t with
  | a :: b :: rest =>
    if tens.toList.contains a && isDecimalDigit b then [(digitsValue [a, b], rest)] else []
  | _ => []

/-- Reads one digit from `1` to `9`. -/
def oneDigit (t : Text) : List (Nat × Text) :=
  match t with
  | a :: rest => if '1' ≤ a && a ≤ '9' then [(digitsValue [a], rest)] else []
  | [] => []

/-- Reads one digit of any script. -/
def anyDigit (t : Text) : List (Nat × Text) :=
  match t with
  | a :: rest => if isDecimalDigit a then [(digitsValue [a], rest)] else []
  | [] => []

/-- Keeps the readings up to a limit. -/
def upTo (limit : Nat) (readings : List (Nat × Text)) : List (Nat × Text) :=
  readings.filter (·.1 ≤ limit)

/-- Reads two ASCII digits, the second one of `units`. -/
def pair (ten : Char) (units : String) (t : Text) : List (Nat × Text) :=
  match t with
  | a :: b :: rest =>
    if a == ten && units.toList.contains b then [(digitsValue [a, b], rest)] else []
  | _ => []

/-- Reads one of several names in letters of either case; the value is its place from 1. -/
def nameOf (names : List String) (t : Text) : List (Nat × Text) :=
  (names.zipIdx 1).filterMap fun (name, place) =>
    let length := name.length
    if (t.take length).map Char.toLower == name.toList then some (place, t.drop length) else none

/-- The ways to take one or more blanks, the longest first. -/
def blankRuns (t : Text) : List (Nat × Text) :=
  let length := (t.takeWhile isBlank).length
  ((List.range length).reverse).map fun n => (0, t.drop (n + 1))

/-- The ways to read a directive at the start of a text, the preferred one first: the value and what
is left. -/
def read (t : Text) : Directive → List (Nat × Text)
  | day => pair '3' "01" t ++ twoDigits "12" t ++ pair '0' "123456789" t ++ oneDigit t ++
    match t with
    | ' ' :: rest => oneDigit rest
    | _ => []
  | month => pair '1' "012" t ++ pair '0' "123456789" t ++ oneDigit t
  | monthShort => nameOf (monthNames.map fun n => String.ofList (n.toList.take 3)) t
  | monthName => nameOf monthNames t
  | year =>
    let digits := t.take 4
    if digits.length == 4 && digits.all isDecimalDigit then [(digitsValue digits, t.drop 4)] else []
  | hour => pair '2' "0123" t ++ twoDigits "01" t ++ anyDigit t
  | minute => twoDigits "012345" t ++ anyDigit t
  | second => pair '6' "01" t ++ twoDigits "012345" t ++ anyDigit t
  | blanks => blankRuns t
  | sign c =>
    match t with
    | a :: rest => if a == c then [(0, rest)] else []
    | [] => []

/-- Notes the value of a directive. -/
def note (m : Moment) (value : Nat) : Directive → Moment
  | day => { m with date := { m.date with day := value } }
  | month | monthShort | monthName => { m with date := { m.date with month := value } }
  | year => { m with date := { m.date with year := value } }
  | hour => { m with hour := value }
  | minute => { m with minute := value }
  | second => { m with second := value }
  | blanks | sign _ => m

end Directive

/-- The ways to read a layout at the start of a text, the preferred one first. -/
def readLayout (m : Moment) : List Directive → Text → List (Moment × Text)
  | [], t => [(m, t)]
  | d :: ds, t => (d.read t).flatMap fun (value, rest) => readLayout (d.note m value) ds rest

open Directive in
/-- The layouts in the order in which they are tried. Where day and month are both numbers, the day
comes first if it can. -/
def layouts : List (List Directive) :=
  let slash := sign '/'
  let time := [blanks, hour, sign ':', minute, sign ':', second]
  [[day, slash, month, slash, year],
    [month, slash, day, slash, year],
    [day, sign '-', month, sign '-', year],
    [year, slash, month, slash, day],
    [day, sign '.', month, sign '.', year],
    [day, slash, month, slash, year] ++ time,
    [month, slash, day, slash, year] ++ time,
    [year, slash, month, slash, day] ++ time,
    [day, blanks, monthShort, blanks, year],
    [monthShort, blanks, day, blanks, year],
    [monthName, blanks, day, sign ',', blanks, year],
    [day, blanks, monthName, blanks, year]]

/-- The moment that the whole of a text spells in a layout. -/
def readWith? (layout : List Directive) (t : Text) : Option Moment :=
  match readLayout ⟨⟨1, 1, 1⟩, 0, 0, 0, 0, none⟩ layout t with
  | (m, []) :: _ => if m.isValid then some m else none
  | _ => none

/-- The moment that a text spells: in the form of ISO 8601, or else in the first layout that
fits. -/
def readMoment? (t : Text) : Option Moment :=
  match Iso.readMoment? t with
  | some m => some m
  | none => layouts.findSome? (readWith? · t)

end SchemaMill

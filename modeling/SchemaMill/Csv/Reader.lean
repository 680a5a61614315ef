import SchemaMill.Text.Blank
import SchemaMill.Value.Basic

/-!
# Reading comma-separated text

A text is read character by character into rows of fields. A field may stand in quotes, inside which
commas and line breaks are text and a quote is written twice. A row ends at a line feed; after a
carriage return outside quotes nothing but line breaks may follow on the line.

The first row that is not blank names the columns, and every further row that is not blank is a
record.
-/

namespace SchemaMill.Csv

/-- Why a text is not comma-separated. -/
inductive Fault where
  | longField
  /-- A carriage return stands in a field without quotes. -/
  | bareReturn
  deriving DecidableEq, Repr

/-- Where the reader is. -/
inductive Place where
  | rowStart
  | fieldStart
  /-- In a field without quotes, or after the quotes of one. -/
  | plain
  | quoted
  /-- After a quote inside quotes. -/
  | quoteSeen
  /-- After a carriage return that ended the row. -/
  | rowEnd
  deriving DecidableEq, Repr

/-- What has been read of a row. -/
structure State where
  place : Place := .rowStart
  /-- The characters of the field, last first. -/
  field : Text := []
  /-- The number of characters of the field. -/
  length : Nat := 0
  /-- The fields before, last first. -/
  fields : List Text := []
  deriving DecidableEq, Repr

/-- The most characters of a field. -/
def fieldLimit : Nat := 131072

namespace State

/-- Takes a character into the field. -/
def push (s : State) (place : Place) (c : Char) : Except Fault State :=
  if fieldLimit ≤ s.length then .error .longField
  else .ok { s with place, field := c :: s.field, length := s.length + 1 }

/-- Ends the field. -/
def endField (s : State) (place : Place) : State :=
  { place, fields := s.field.reverse :: s.fields }

/-- The row, if it ends here. -/
def row? (s : State) : Option (List Text) :=
  match s.place with
  | .rowStart => none
  | .rowEnd => some s.fields.reverse
  | _ => some (s.field.reverse :: s.fields).reverse

/-- Takes a character outside quotes that is no line feed and, at the start of a field, no quote. -/
def stepPlain (s : State) (c : Char) : Except Fault State :=
  if c == ',' then .ok (s.endField .fieldStart)
  else if c == '\r' then .ok (s.endField .rowEnd)
  else s.push .plain c

/-- The state after one more character that ends no row. -/
def step (s : State) (c : Char) : Except Fault State :=
  match s.place with
  | .rowStart =>
    if c == '\r' then .ok { s with place := .rowEnd }
    else if c == '"' then .ok { s with place := .quoted }
    else s.stepPlain c
  | .fieldStart => if c == '"' then .ok { s with place := .quoted } else s.stepPlain c
  | .plain => s.stepPlain c
  | .quoted => if c == '"' then .ok { s with place := .quoteSeen } else s.push .quoted c
  | .quoteSeen => if c == '"' then s.push .quoted c else s.stepPlain c
  | .rowEnd => if c == '\r' then .ok s else .error .bareReturn

end State

/-- The rows of a text from a state on, after the rows `taken`, last first. A line feed outside
quotes ends a row, also an empty one. -/
def readRowsFrom (taken : List (List Text)) (s : State) : Text → Except Fault (List (List Text))
  | [] => .ok (s.row?.toList ++ taken).reverse
  | c :: rest =>
    if c == '\n' && s.place != .quoted then readRowsFrom (s.row?.getD [] :: taken) {} rest
    else match s.step c with
      | .error e => .error e
      | .ok s => readRowsFrom taken s rest

/-- The rows of a text. -/
def readRows (t : Text) : Except Fault (List (List Text)) := readRowsFrom [] {} t

/-- Whether all fields of a row are blank. -/
def isBlankRow (row : List Text) : Bool := row.all fun field => (trim field).isEmpty

/-- The names of the columns that a header row gives; a blank one is named by its place from 1. -/
def columnNames (header : List Text) : List Text :=
  (header.zipIdx 1).map fun (name, place) =>
    if (trim name).isEmpty then "column_".toList ++ decimal place else trim name

/-- The record that a row is under given columns. Missing fields are empty, and fields beyond the
columns are left out. -/
def recordOf (columns : List Text) (row : List Text) : Record :=
  fieldsOf ((columns.zipIdx).map fun (column, place) => (column, .text (trim (row.getD place []))))

/-- The records of a text. -/
def read (t : Text) : Except Fault (List Record) := do
  match (← readRows t).filter (!isBlankRow ·) with
  | [] => .ok []
  | header :: rows => .ok (rows.map (recordOf (columnNames header)))

end SchemaMill.Csv

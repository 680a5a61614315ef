import SchemaMill.Value.Basic
import SchemaMill.Value.Evidence

/-!
# Writing comma-separated text

A header row with the columns and one row for each record, with every field in quotes and every row
ended by a line feed.
-/

namespace SchemaMill.Csv

/-- A field inside quotes: a quote is written twice. -/
def escapedField : Text → Text
  | [] => []
  | c :: rest => if c = '"' then '"' :: '"' :: escapedField rest else c :: escapedField rest

/-- A field in quotes. -/
def writeField (t : Text) : Text := '"' :: escapedField t ++ ['"']

/-- A row with its line feed. -/
def writeRow (fields : List Text) : Text := joinWith [','] (fields.map writeField) ++ ['\n']

/-- The cell of a record in a column; a missing one is empty. -/
def cellAt (record : Record) (column : Text) : Text := ((record.lookup column).getD .null).cell

/-- Records under given columns. -/
def write (columns : List Text) (records : List Record) : Text :=
  writeRow columns ++ records.flatMap fun r => writeRow (columns.map (cellAt r))

end SchemaMill.Csv

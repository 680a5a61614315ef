import SchemaMill.Sql.Dialect
import SchemaMill.Text.Blank

/-!
# Output formats

Documents are statements in one of two dialects, or records in one of two formats.
-/

namespace SchemaMill.Conversion

/-- The format of a document. -/
inductive Format where
  /-- Statements for MySQL. -/
  | mysql
  /-- Statements for PostgreSQL. -/
  | postgresql
  /-- Records as comma-separated text. -/
  | csv
  /-- Records as JSON text. -/
  | json
  deriving DecidableEq, Repr

namespace Format

/-- All formats. -/
def all : List Format := [mysql, postgresql, csv, json]

/-- The name of a format. -/
def name : Format → Text
  | mysql => "mysql"
  | postgresql => "postgresql"
  | csv => "csv"
  | json => "json"

/-- The dialect of a format of statements. -/
def dialect? : Format → Option Sql.Dialect
  | mysql => some .mysql
  | postgresql => some .postgres
  | csv => none
  | json => none

/-- The ending of a file in a format. -/
def extension : Format → Text
  | mysql => ".sql"
  | postgresql => ".sql"
  | csv => ".csv"
  | json => ".json"

/-- The format of a name, in capitals or small letters and with blanks around it. -/
def ofText? (t : Text) : Option Format := all.find? fun f => f.name == lowerCase (trim t)

theorem ofText?_name (f : Format) : ofText? f.name = some f := by
  cases f <;> decide

end Format

end SchemaMill.Conversion

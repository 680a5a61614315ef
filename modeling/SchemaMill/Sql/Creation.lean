import SchemaMill.Profile.ColumnType
import SchemaMill.Sql.Tidy
import SchemaMill.Sql.Token
import SchemaMill.Value.Evidence

/-!
# Statements for records

Records become two statements: one creates a table with a column of the right type for each of their
keys, the other inserts all records as rows of text literals, with `NULL` for what is empty.
-/

namespace SchemaMill.Sql

/-- A number, or the usual one for zero. -/
def orUsual (usual n : Int) : Int := if n == 0 then usual else n

/-- The clauses that give a text column of MySQL its character set and collation. -/
def textEncoding (charset : Text) : Text :=
  (if charset.isEmpty then [] else " CHARACTER SET ".toList ++ charset) ++
    " COLLATE ".toList ++ collationFor charset

/-- A column type in a dialect. -/
def typeText (d : Dialect) (charset : Text) (t : ColumnType) : Text :=
  match d, t with
  | _, .json => "JSON"
  | .mysql, .datetime => "DATETIME"
  | .postgres, .datetime => "TIMESTAMP WITHOUT TIME ZONE"
  | _, .decimal precision scale =>
    (match d with | .mysql => "DECIMAL(" | .postgres => "NUMERIC(").toList ++
      decimalInt (orUsual 10 precision) ++ ", ".toList ++ decimalInt (orUsual 2 scale) ++ [')']
  | .mysql, .tinyint => "TINYINT"
  | .postgres, .tinyint => "SMALLINT"
  | _, .smallint => "SMALLINT"
  | _, .int => "INTEGER"
  | _, .bigint => "BIGINT"
  | _, .varchar length =>
    "VARCHAR(".toList ++ decimalInt (orUsual 255 length) ++ [')'] ++
      (match d with | .mysql => textEncoding charset | .postgres => [])
  | .mysql, .text => "TEXT".toList ++ textEncoding charset
  | .postgres, .text => "TEXT"

/-- A name in the quotes of a dialect. -/
def quotedName (d : Dialect) (name : Text) : Text := (Identifier.mk name true).render d

/-- The statement that creates a table, as it is generated. -/
def creationText (d : Dialect) (charset table : Text) (columns : List (Text × ColumnType)) : Text :=
  "\nCREATE TABLE ".toList ++ quotedName d table ++ " (\n".toList ++
    joinWith ", \n" (columns.map fun (name, type) =>
      '\t' :: quotedName d name ++ [' '] ++ typeText d charset type) ++ "\n)\n\n".toList

/-- A text literal. A quote is written twice, and where backslashes escape, so is a backslash. -/
def literal (d : Dialect) (t : Text) : Text :=
  let inner := double '\'' t
  '\'' :: (match d with | .mysql => double '\\' inner | .postgres => inner) ++ ['\'']

/-- What a record holds in a column; nothing if it is empty. -/
def stored? (record : Record) (column : Text) : Option Text :=
  match record.lookup column with
  | none => none
  | some v => if v.isEmpty then none else some v.render

/-- The literal of a stored value. -/
def storedLiteral (d : Dialect) : Option Text → Text
  | none => "NULL"
  | some t => literal d t

/-- Items in parentheses with commas between them. -/
def inParens (items : List Text) : Text := '(' :: joinWith ", " items ++ [')']

/-- The statement that inserts records into a table. -/
def insertionText (d : Dialect) (table : Text) (columns : List Text) (records : List Record) :
    Text :=
  "INSERT INTO ".toList ++ quotedName d table ++ [' '] ++ inParens (columns.map (quotedName d)) ++
    " VALUES ".toList ++ joinWith ", " (records.map fun r =>
      inParens (columns.map fun c => storedLiteral d (stored? r c)))

/-- A column without a name cannot be created. -/
structure UnnamedColumn where
  deriving DecidableEq, Repr

/-- The two statements for records whose columns have the given types. Without records or columns
there is nothing to state. -/
def statementsFor (d : Dialect) (charset table : Text) (columns : List (Text × ColumnType))
    (records : List Record) : Except UnnamedColumn (List Text) :=
  if records.isEmpty || columns.isEmpty then .ok []
  else if columns.any (·.1.isEmpty) then .error {}
  else .ok [tidy (creationText d charset table columns),
    insertionText d table (columns.map Prod.fst) records]

end SchemaMill.Sql

import SchemaMill.Text.Numeral

/-!
# Column types

The types that the values of a column can call for, with the names they go by. Whoever names a type
may give it any numbers, so they are integers.
-/

namespace SchemaMill

/-- A type of a column. -/
inductive ColumnType where
  | json
  | datetime
  | decimal (precision scale : Int)
  | tinyint
  | smallint
  | int
  | bigint
  | varchar (length : Int)
  | text
  deriving DecidableEq, Repr

namespace ColumnType

/-- The name of a type with its numbers. -/
def name : ColumnType → Text
  | json => "JSON"
  | datetime => "DATETIME"
  | decimal precision scale =>
    "DECIMAL(".toList ++ decimalInt precision ++ [','] ++ decimalInt scale ++ [')']
  | tinyint => "TINYINT"
  | smallint => "SMALLINT"
  | int => "INT"
  | bigint => "BIGINT"
  | varchar length => "VARCHAR(".toList ++ decimalInt length ++ [')']
  | text => "TEXT"

/-- The type of a given name. Numbers that are not given are zero, which stands for the usual
one. -/
def ofName? (name : Text) (length precision scale : Int) : Option ColumnType :=
  [("JSON", json), ("DATETIME", datetime), ("DECIMAL", decimal precision scale),
    ("TINYINT", tinyint), ("SMALLINT", smallint), ("INT", int), ("BIGINT", bigint),
    ("VARCHAR", varchar length), ("TEXT", text)].findSome?
    fun (n, type) => if n.toList == name then some type else none

end ColumnType

end SchemaMill

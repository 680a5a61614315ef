import SchemaMill.Text.Letter

/-!
# Output dialects

The two dialects that statements are written in, how each quotes an identifier, and the settings a
script of the dialect opens and closes with.
-/

namespace SchemaMill.Sql

/-- The dialect that statements are written in. -/
inductive Dialect where
  | mysql
  | postgres
  deriving DecidableEq, Repr

/-- The collation that goes with a character set. -/
def collationFor (charset : Text) : Text := charset ++ "_unicode_ci".toList

/-- The encoding names of a PostgreSQL server for the character sets of a MySQL server. -/
def serverEncodings : List (Text × Text) :=
  [("utf8mb4", "UTF8"), ("utf8mb3", "UTF8"), ("utf8", "UTF8"), ("latin1", "WIN1252"),
    ("latin2", "LATIN2"), ("ascii", "SQL_ASCII"), ("cp1250", "WIN1250"), ("cp1251", "WIN1251"),
    ("cp1256", "WIN1256"), ("koi8r", "KOI8R"), ("koi8u", "KOI8U"), ("sjis", "SJIS"),
    ("ujis", "EUC_JP"), ("euckr", "EUC_KR"), ("gbk", "GBK"), ("big5", "BIG5")].map
    fun (charset, encoding) => (charset.toList, encoding.toList)

namespace Dialect

/-- Whether columns carry a character set and a collation of their own. -/
def hasColumnCharsets : Dialect → Bool
  | mysql => true
  | postgres => false

/-- The character around a quoted identifier. -/
def identifierQuote : Dialect → Char
  | mysql => '\x60'
  | postgres => '"'

/-- The name of an encoding in a session of the dialect. -/
def sessionEncoding (d : Dialect) (charset : Text) : Text :=
  match d with
  | mysql => charset
  | postgres => (serverEncodings.lookup (lowerCase charset)).getD (upperCase charset)

/-- The settings before the first statement: the encoding, and no integrity checks. -/
def headerPragmas (d : Dialect) (charset : Text) : List Text :=
  match d with
  | mysql =>
    ["SET NAMES ".toList ++ d.sessionEncoding charset, "SET FOREIGN_KEY_CHECKS = 0"]
  | postgres =>
    ["SET client_encoding = '".toList ++ d.sessionEncoding charset ++ ['\''],
      "SET session_replication_role = 'replica'"]

/-- The settings after the last statement: integrity checks again. -/
def footerPragmas : Dialect → List Text
  | mysql => ["SET FOREIGN_KEY_CHECKS = 1"]
  | postgres => ["SET session_replication_role = 'origin'"]

end Dialect

end SchemaMill.Sql

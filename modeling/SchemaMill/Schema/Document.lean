import SchemaMill.Sql.Dialect
import SchemaMill.Text.Blank

/-!
# Documents

A document is a banner, the settings that a script opens with, the statements, each with one
semicolon and a blank line, and the settings that a script closes with.
-/

namespace SchemaMill.Schema

/-- A text without its last character as long as that is a semicolon or a blank. -/
def dropTerminator (t : Text) : Text :=
  (t.reverse.dropWhile fun c => isBlank c || c == ';').reverse

/-- The lines at the top of a document. -/
def banner (timestamp charset : Text) : Text :=
  "-- Generated by DB Blender\n-- Timestamp: ".toList ++ timestamp ++ "\n-- Encoding: ".toList ++
    charset ++ "\n\n".toList

/-- A setting on a line of its own. -/
def settingLine (setting : Text) : Text := setting ++ ";\n".toList

/-- A statement with its semicolon and a blank line after it. -/
def statementLines (statement : Text) : Text := statement ++ ";\n\n".toList

/-- The text of a document. Statements that are nothing but semicolons are left out. -/
def document (d : Sql.Dialect) (charset timestamp : Text) (statements : List Text) : Text :=
  banner timestamp charset ++ (d.headerPragmas charset).flatMap settingLine ++ ['\n'] ++
    ((statements.map dropTerminator).filter (!·.isEmpty)).flatMap statementLines ++
    d.footerPragmas.flatMap settingLine

end SchemaMill.Schema

import SchemaMill.Sql.Table

/-!
# Moving table definitions to a target

A definition is moved to the character set and the dialect of a target: table names lose a prefix,
the type `TINYTEXT` becomes a bounded one, and columns and table options get the character set of
the target and its collation where the dialect has them.
-/

namespace SchemaMill.Schema

open Sql

/-- What table definitions are moved to. -/
structure Target where
  charset : Text := "utf8mb4"
  /-- What table names lose at their start. -/
  strip : Option Text := none
  /-- The dialect that definitions are written in. -/
  dialect : Dialect := .mysql
  deriving DecidableEq, Repr

namespace Target

/-- A table name without the prefix. A name that is nothing but the prefix stays. -/
def bareName (strip : Option Text) (name : Text) : Text :=
  match strip.bind (dropPrefix? · name) with
  | some (c :: rest) => c :: rest
  | _ => name

/-- The types of columns that carry a character set. -/
def textTypes : List Text :=
  ["VARCHAR", "NVARCHAR", "TEXT", "MEDIUMTEXT", "LONGTEXT"].map String.toList

/-- A column with a bounded type in place of `TINYTEXT`. -/
def boundType (c : Column) : Column :=
  if c.dataType == "TINYTEXT".toList then
    { c with dataType := "VARCHAR", typeArgs := [⟨.number, "255", false⟩] }
  else c

/-- A column with the character set and the collation of the target. -/
def encodeColumn (o : Target) (c : Column) : Column :=
  if !o.dialect.hasColumnCharsets then { c with charset := none, collation := none }
  else if textTypes.contains c.dataType then
    { c with charset := some o.charset, collation := some (collationFor o.charset) }
  else c

/-- A column moved to the target: its type, its character set, and the names of the tables that it
references. -/
def moveColumn (o : Target) (c : Column) : Column :=
  { o.encodeColumn (boundType c) with options := c.options.map (Part.mapName (bareName o.strip)) }

/-- An element moved to the target. -/
def moveElement (o : Target) : Element → Element
  | .column c => .column (o.moveColumn c)
  | .constraint c => .constraint { c with parts := c.parts.map (Part.mapName (bareName o.strip)) }

/-- Table options with new values, and which of the two settings were there. -/
structure MovedOptions where
  tokens : List Token := []
  hasCharset : Bool := false
  hasCollation : Bool := false
  deriving DecidableEq, Repr

/-- The options from a token on, after the keyword `previous`. A value is `awaited` after the
keyword of a setting, behind an equals sign that may stand there; nothing is awaited if it is
empty. -/
def moveOptionsFrom (charset : Text) (previous awaited : Text) : List Token → MovedOptions
  | [] => {}
  | t :: ts =>
    if !awaited.isEmpty && !t.isSign '=' then
      let rest := moveOptionsFrom charset t.word [] ts
      { rest with tokens := ⟨.name, awaited, t.spaced⟩ :: rest.tokens }
    else
      let setsCharset := t.isWord "CHARSET" || (t.isWord "SET" && previous == "CHARACTER".toList)
      let setsCollation := t.isWord "COLLATE"
      let awaited :=
        if setsCharset then charset else if setsCollation then collationFor charset else awaited
      let rest := moveOptionsFrom charset t.word awaited ts
      ⟨t :: rest.tokens, rest.hasCharset || setsCharset, rest.hasCollation || setsCollation⟩

/-- The clause that names a collation. -/
def collationClause (charset : Text) : List Token :=
  [⟨.keyword, "COLLATE", true⟩, ⟨.operator, "=", false⟩, ⟨.name, collationFor charset, false⟩]

/-- Table options with the character set and the collation of the target in place of their own. With
a character set goes a collation, at the end if there is none. -/
def moveOptions (charset : Text) (options : List Token) : List Token :=
  let moved := moveOptionsFrom charset [] [] options
  if moved.hasCharset && !moved.hasCollation then moved.tokens ++ collationClause charset
  else moved.tokens

/-- A table definition moved to the target. -/
def move (o : Target) (t : Table) : Table :=
  { t with
    name := t.name.rename (bareName o.strip t.name.name)
    elements := t.elements.map (·.map o.moveElement)
    options := if o.dialect.hasColumnCharsets then moveOptions o.charset t.options else t.options }

end Target

end SchemaMill.Schema

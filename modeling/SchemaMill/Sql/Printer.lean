import SchemaMill.Sql.Postgres

/-!
# Writing table definitions

A table definition is written with one element of its body on each line and without a semicolon at
its end.
-/

namespace SchemaMill.Sql

/-- The data type of a column with its arguments. -/
def Column.renderType (d : Dialect) (c : Column) : Text :=
  let dataType := if d.hasColumnCharsets then c.dataType else Postgres.typeName c.dataType
  let bare := !d.hasColumnCharsets && Postgres.bareTypes.contains dataType
  if c.typeArgs.isEmpty || bare then dataType
  else dataType ++ ['('] ++ renderTokens d c.typeArgs ++ [')']

/-- A clause of a keyword and a name, if there is a name. -/
def encodingClause (keyword : String) : Option Text → List Text
  | none => []
  | some name => if name.isEmpty then [] else [keyword.toList ++ name]

/-- The text of a column on one line. -/
def Column.render (d : Dialect) (c : Column) : Text :=
  let encoding :=
    if d.hasColumnCharsets then
      encodingClause "CHARACTER SET " c.charset ++ encodingClause "COLLATE " c.collation
    else []
  let options := if d.hasColumnCharsets then c.options else Postgres.columnOptions c.options
  joinWith [' '] ([c.name.render d, c.renderType d] ++ encoding ++
    if options.isEmpty then [] else [renderParts d options])

/-- The text of an element, if it has a place in the dialect. -/
def Element.render? (d : Dialect) : Element → Option Text
  | column c => some (c.render d)
  | constraint c =>
    if d.hasColumnCharsets then some (renderParts d c.parts)
    else (Postgres.constraint? c).map fun c => renderParts d c.parts

/-- The words up to the table name, and the table name. -/
def Table.renderHead (d : Dialect) (t : Table) : Text :=
  renderParts d (t.head.map .token ++ [.name t.name])

/-- The text of a table definition. Table options are storage settings, which only a dialect with
column character sets knows; without a body they say what the table is made from. -/
def Table.render (d : Dialect) (t : Table) : Text :=
  let options := if t.options.isEmpty then [] else ' ' :: renderTokens d t.options
  match t.elements with
  | none => t.renderHead d ++ options
  | some elements =>
    let lines := (elements.filterMap (·.render? d)).map ("  ".toList ++ ·)
    t.renderHead d ++ " (\n".toList ++ joinWith ",\n" lines ++ "\n)".toList ++
      if d.hasColumnCharsets then options else []

end SchemaMill.Sql
